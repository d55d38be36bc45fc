import Framecast.Proofs.Frame.Presentation
import Framecast.Proofs.Frame.RoundTrip

/-!
# What is delivered

The frames that a run of calls returns are those of the packets that were put on the stream, in
order, each with the header that was prepared for it (`frames_posted`).
-/

namespace Framecast

/-- What a call tells of the frame. -/
def Frame.event (f : Frame) : Event :=
  .frame f.header f.buffer.memory

/-- The header of a frame that was told of. -/
def Event.header? : Event → Option Header
  | .frame header _ => some header
  | _ => none

namespace Deframer

/-- If frames were told and nothing else, these are all the frames that were returned. -/
theorem map_event_frames {results : List (Result FrameError FrameOutcome)}
    (h : ∀ e ∈ told results, ∃ header memory, e = .frame header memory) :
    (frames results).map Frame.event = told results := by
  induction results with
  | nil => rfl
  | cons result rest ih =>
    rw [told_cons, List.forall_mem_append] at h
    obtain ⟨hfirst, hrest⟩ := h
    rw [told_cons, frames_cons, List.map_append, ih hrest, List.append_cancel_right_eq]
    cases hevent : Event.ofResult? result with
    | none =>
      have hframe : frame? result = none := by
        unfold frame?
        split
        · cases hevent
        · rfl
      rw [hframe]
      rfl
    | some e =>
      rw [hevent] at hfirst
      obtain ⟨header, memory, rfl⟩ := hfirst e (List.mem_singleton_self _)
      unfold Event.ofResult? at hevent
      split at hevent
      · cases hevent
        rfl
      all_goals cases hevent

/-- A run returns the first of the frames that were sent, and unless there are all of them, it is
short. -/
theorem frames_posted {α : Type} {packet : α → Packet} {d : Deframer} {sent : List α}
    (hsent : ∀ x ∈ sent, (packet x).Sound d.config.maxInline) (hidle : d.hasPartial = false)
    (turns : List Turn) (clocks : List Readings) :
    let source : Source := ⟨Packet.stream (sent.map packet), false, turns⟩
    let frames := frames (pulls Source.receiver clocks d source).1
    frames.map Frame.event = (sent.take frames.length).map (fun x => (packet x).event) ∧
      (clocks.length ≤ frames.length + source.patience ∨ frames.length = sent.length) := by
  intro source frames
  have hsound : ∀ p ∈ sent.map packet, p.Sound d.config.maxInline := by
    simpa using hsent
  obtain ⟨htold, hcount, -⟩ := pulls_stream (holds_nil hidle) hsound turns clocks
  have hframes : frames.map Frame.event = told (pulls Source.receiver clocks d source).1 := by
    apply map_event_frames
    intro e he
    rw [htold] at he
    obtain ⟨p, -, rfl⟩ := List.mem_map.mp he
    exact ⟨_, _, rfl⟩
  have hlength : (told (pulls Source.receiver clocks d source).1).length = frames.length := by
    rw [← hframes, List.length_map]
  rw [hlength, List.length_map] at hcount
  refine ⟨?_, ?_⟩
  · rw [hframes, htold, hlength, ← List.map_take, List.map_map]
    rfl
  · rw [Source.patience, ← Nat.add_assoc]
    exact hcount

/-- Frames that are told of as packets have the headers of these. -/
theorem map_header_of_map_event {α : Type} {packet : α → Packet} {frames : List Frame}
    {received : List α} (h : frames.map Frame.event = received.map fun x => (packet x).event) :
    frames.map (·.header) = received.map fun x => (packet x).header := by
  have hheaders := congrArg (List.filterMap Event.header?) h
  simpa [List.filterMap_map, Function.comp_def, Frame.event, Packet.event, Event.header?]
    using hheaders

end Deframer

end Framecast
