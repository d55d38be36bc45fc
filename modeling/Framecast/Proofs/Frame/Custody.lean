import Framecast.Proofs.Frame.Chunking

/-!
# What becomes of descriptors

A deframer is handed descriptors with the bytes that they came with. Each of them waits in it until
a frame takes it over or it is released, to be closed; `Looks` says what looking for a frame does to
those that wait, and `Booked` what any call does. `descriptors_conserved` adds this up over all
calls, of any kind and in any order: no descriptor is lost, and none gets into a frame that was
begun after the one it came with was dealt with.
-/

namespace Framecast

/-- The descriptors that a frame owns. -/
def Frame.descriptors (f : Frame) : List Descriptor :=
  match f.buffer.memory with
  | .heap _ => []
  | .region r => [r.descriptor]

namespace Deframer

/-- How many descriptors a frame with this header owns. -/
def owns (h : Header) : Nat :=
  if h.isInline then 0 else 1

variable {d d' : Deframer}

/-- What looking for a frame can do to the descriptors that wait. -/
inductive Looks (d : Deframer) : Parsed → Prop
  | nothing : Looks d ⟨.ok none, d, []⟩
  | refused (e : FrameError) (hlasting : ∀ c, e ≠ .corrupt c) : Looks d ⟨.error e, d, []⟩
  | panicked (message : String) : Looks d ⟨.panic message, d, []⟩
  | corrupt (c : Corruption) (d' : Deframer) (hempty : d'.pending = []) :
      Looks d ⟨.error (.corrupt c), d', d.pending⟩
  | frame (f : Frame) (d' : Deframer) (hempty : d'.pending = [])
      (howned : f.descriptors = d.pending) (hcount : f.descriptors.length = owns f.header) :
      Looks d ⟨.ok (some f), d', []⟩

theorem looks_finish (now : Readings) {h : Header} {memory : Memory} (hempty : d'.pending = [])
    (howned : ∀ pts, Frame.descriptors ⟨h, memory, pts⟩ = d.pending)
    (hcount : d.pending.length = owns h) : Looks d (d'.finish now h memory) := by
  have hpending := (presentation_keeps now h.captureTimestamp d').2.2.1
  refine .frame _ _ (hpending.trans hempty) (howned _) ?_
  rw [howned, hcount]

/-- A look for a frame loses no descriptor. -/
theorem looks_parse (now : Readings) (d : Deframer) : Looks d (d.parse now) := by
  have hfound := found_parse now d
  generalize d.parse now = parsed at hfound ⊢
  cases hfound with
  | nothing => exact .nothing
  | refused e hlasting => exact .refused e hlasting
  | panicked message => exact .panicked message
  | corrupt c => exact .corrupt c _ rfl
  | inlined h payload backlog hinline hempty =>
    exact looks_finish now rfl (fun _ => hempty.symm) (by simp [hempty, owns, hinline])
  | referenced h r backlog hinline hone =>
    exact looks_finish now rfl (fun _ => hone.symm) (by simp [hone, owns, hinline])

/-! ### Calls -/

/-- A call on a deframer. A pull is given what its receive will answer. -/
inductive Call where
  | push (bytes : Bytes) (descriptors : List Descriptor)
  | parse (now : Readings)
  | reset
  | setStream (stream : Nat)
  | pull (now : Readings) (receive : Nat → Except IoError Arrival)

/-- What a call came to. -/
inductive Outcome where
  | pushed
  | parsed (result : Result FrameError (Option Frame))
  | reset
  /-- The stream was the same as before, or the first. -/
  | stayed
  | switched
  | pulled (result : Result FrameError FrameOutcome)

namespace Outcome

/-- The frame that was returned. -/
def frame? : Outcome → Option Frame
  | parsed (.ok (some f)) | pulled (.ok (.frame f)) => some f
  | _ => none

/-- Whether the current frame was dealt with: it was returned or found corrupt, or it was dropped
with the stream that it came on. -/
def isBoundary : Outcome → Bool
  | parsed (.ok (some _)) | pulled (.ok (.frame _)) => true
  | parsed (.error (.corrupt _)) | pulled (.error (.corrupt _)) => true
  | reset | switched | pulled (.ok .endOfStream) => true
  | _ => false

end Outcome

/-- What a call came to, with the descriptors that it was handed and those that it released. -/
structure Booking where
  outcome : Outcome
  handed : List Descriptor
  released : List Descriptor

namespace Booking

/-- The descriptors that the returned frame owns. -/
def owned (b : Booking) : List Descriptor :=
  b.outcome.frame?.toList.flatMap Frame.descriptors

end Booking

/-- A socket that answers so and keeps account of the descriptors that it handed over. -/
def accounting (receive : Nat → Except IoError Arrival) : Receiver (StateM (List Descriptor)) :=
  fun size handed =>
    match receive size with
    | .ok arrival => (.ok arrival, handed ++ arrival.descriptors)
    | .error e => (.error e, handed)

/-- Make a call. -/
def call (c : Call) (d : Deframer) : Booking × Deframer :=
  match c with
  | .push bytes descriptors => (⟨.pushed, descriptors, []⟩, d.push bytes descriptors)
  | .parse now =>
    let parsed := d.parse now
    (⟨.parsed parsed.result, [], parsed.released⟩, parsed.deframer)
  | .reset => (⟨.reset, [], d.reset.2⟩, d.reset.1)
  | .setStream stream =>
    let outcome := if d.stream.all (· = stream) then .stayed else .switched
    (⟨outcome, [], (d.setStream stream).2⟩, (d.setStream stream).1)
  | .pull now receive =>
    let (step, handed) := d.pull now (accounting receive) []
    (⟨.pulled step.result, handed, step.released⟩, step.deframer)

/-- What one call does to the descriptors that wait. -/
structure Booked (d : Deframer) (b : Booking) (d' : Deframer) : Prop where
  /-- Of those that waited and those that were handed over, each is owned by the frame that was
  returned, or released, or still waits. -/
  balance : d.pending ++ b.handed = b.owned ++ b.released ++ d'.pending
  /-- None waits any more when the current frame was dealt with. -/
  emptied : b.outcome.isBoundary = true → d'.pending = []
  /-- Otherwise all of them wait. -/
  kept : b.outcome.isBoundary = false → d'.pending = d.pending ++ b.handed
  /-- A frame owns all of them: none if it is inline, else one. -/
  frame : ∀ f, b.outcome.frame? = some f →
    f.descriptors = d.pending ++ b.handed ∧ f.descriptors.length = owns f.header
  /-- Only what brings bytes hands descriptors over. -/
  parsed : ∀ result, b.outcome = .parsed result → b.handed = []

/-- Nothing was dealt with. -/
theorem Booked.of_kept {b : Booking} (hboundary : b.outcome.isBoundary = false)
    (hframe : b.outcome.frame? = none) (hreleased : b.released = [])
    (hpending : d'.pending = d.pending ++ b.handed)
    (hparsed : ∀ result, b.outcome = .parsed result → b.handed = []) : Booked d b d' := by
  refine ⟨?_, ?_, fun _ => hpending, ?_, hparsed⟩
  · simp [Booking.owned, hframe, hreleased, hpending]
  · simp [hboundary]
  · simp [hframe]

/-- What waited was released. -/
theorem Booked.of_released {b : Booking} (hframe : b.outcome.frame? = none)
    (hreleased : b.released = d.pending ++ b.handed) (hboundary : b.outcome.isBoundary = true)
    (hpending : d'.pending = [])
    (hparsed : ∀ result, b.outcome = .parsed result → b.handed = []) : Booked d b d' := by
  refine ⟨?_, fun _ => hpending, ?_, ?_, hparsed⟩
  · simp [Booking.owned, hframe, hreleased, hpending]
  · simp [hboundary]
  · simp [hframe]

theorem isBoundary_error {e : FrameError} (h : ∀ c, e ≠ .corrupt c) :
    Outcome.isBoundary (.parsed (.error e)) = false := by
  cases e with
  | corrupt c => exact absurd rfl (h c)
  | allocation | payloadTooLarge | socket | closed => rfl

/-- A look at what waited and what was handed over before it, in whatever call. -/
theorem Booked.of_looks {d₁ : Deframer} {outcome : Outcome} {handed : List Descriptor} {p : Parsed}
    (hpending : d₁.pending = d.pending ++ handed) (h : Looks d₁ p)
    (hframe : outcome.frame? = Outcome.frame? (.parsed p.result))
    (hboundary : outcome.isBoundary = Outcome.isBoundary (.parsed p.result))
    (hparsed : ∀ result, outcome = .parsed result → handed = []) :
    Booked d ⟨outcome, handed, p.released⟩ p.deframer := by
  cases h with
  | nothing => exact .of_kept hboundary hframe rfl hpending hparsed
  | refused e hlasting =>
    exact .of_kept (hboundary.trans (isBoundary_error hlasting)) hframe rfl hpending hparsed
  | panicked message => exact .of_kept hboundary hframe rfl hpending hparsed
  | corrupt c d' hempty => exact .of_released hframe hpending hboundary hempty hparsed
  | frame f d' hempty howned hcount =>
    rw [hpending] at howned
    have hreturned : outcome.frame? = some f := hframe
    refine ⟨?_, fun _ => hempty, ?_, ?_, hparsed⟩
    · simp [Booking.owned, hreturned, hempty, howned]
    · rw [hboundary]
      nofun
    · intro f' hf'
      rw [hreturned, Option.some.injEq] at hf'
      exact hf' ▸ ⟨howned, hcount⟩

theorem frame?_pulled (p : Parsed) :
    Outcome.frame? (.pulled p.toStep.result) = Outcome.frame? (.parsed p.result) := by
  rcases p with ⟨(_ | _) | _ | _, _, _⟩ <;> rfl

theorem isBoundary_pulled (p : Parsed) :
    Outcome.isBoundary (.pulled p.toStep.result) = Outcome.isBoundary (.parsed p.result) := by
  rcases p with ⟨(_ | _) | e | _, _, _⟩
  · rfl
  · rfl
  · cases e <;> rfl
  · rfl

/-- A look in the course of a pull. -/
theorem booked_looked {d₁ : Deframer} {handed : List Descriptor} {p : Parsed}
    (hpending : d₁.pending = d.pending ++ handed) (h : Looks d₁ p) :
    Booked d ⟨.pulled p.toStep.result, handed, p.toStep.released⟩ p.toStep.deframer :=
  .of_looks hpending h (frame?_pulled p) (isBoundary_pulled p) fun _ => nofun

theorem booked_absorb (now : Readings) (arrival : Arrival) (d : Deframer) :
    let step := d.absorb now arrival
    Booked d ⟨.pulled step.result, arrival.descriptors, step.released⟩ step.deframer := by
  unfold absorb
  split
  · exact .of_released rfl rfl rfl rfl fun _ => nofun
  · exact booked_looked rfl (looks_parse now _)

theorem call_pull (now : Readings) (receive : Nat → Except IoError Arrival) (d : Deframer) :
    d.call (.pull now receive) =
      let pulled := d.pull now (accounting receive) []
      (⟨.pulled pulled.1.result, pulled.2, pulled.1.released⟩, pulled.1.deframer) := rfl

theorem booked_pull (now : Readings) (receive : Nat → Except IoError Arrival) (d : Deframer) :
    Booked d (d.call (.pull now receive)).1 (d.call (.pull now receive)).2 := by
  rw [call_pull]
  by_cases hresult : (d.parse now).result = .ok none
  · rw [pull_of_parse_eq hresult, accounting]
    cases receive d.wanted with
    | error e => exact .of_kept rfl rfl rfl (List.append_nil _).symm fun _ => nofun
    | ok arrival => exact booked_absorb now arrival d
  · rw [pull_of_parse_ne hresult]
    exact booked_looked (List.append_nil _).symm (looks_parse now d)

/-- A new stream releases what was held of the old one. -/
theorem booked_setStream (stream : Nat) (d : Deframer) :
    Booked d (d.call (.setStream stream)).1 (d.call (.setStream stream)).2 := by
  unfold call setStream
  cases d.stream with
  | none => exact .of_kept rfl rfl rfl (List.append_nil _).symm fun _ => nofun
  | some current =>
    dsimp only
    by_cases hsame : current = stream
    · rw [if_pos (by simp [hsame]), if_pos hsame]
      exact .of_kept rfl rfl rfl (List.append_nil _).symm fun _ => nofun
    · rw [if_neg (by simp [hsame]), if_neg hsame]
      exact .of_released rfl (List.append_nil _).symm rfl rfl fun _ => nofun

/-- No call loses a descriptor. -/
theorem booked_call (c : Call) (d : Deframer) : Booked d (d.call c).1 (d.call c).2 := by
  cases c with
  | push bytes descriptors => exact .of_kept rfl rfl rfl rfl fun _ => nofun
  | parse now =>
    exact .of_looks (List.append_nil _).symm (looks_parse now d) rfl rfl fun _ _ => rfl
  | reset => exact .of_released rfl (List.append_nil _).symm rfl rfl fun _ => nofun
  | setStream stream => exact booked_setStream stream d
  | pull now receive => exact booked_pull now receive d

end Deframer

/-! ### Runs -/

/-- A deframer with an account of all calls. -/
structure Custody where
  deframer : Deframer
  /-- What every call did, last first. -/
  bookings : List Deframer.Booking := []

namespace Custody

open Deframer

/-- Make a call, and book the descriptors that it was handed and that it released. -/
def call (c : Call) (s : Custody) : Custody :=
  ⟨(s.deframer.call c).2, (s.deframer.call c).1 :: s.bookings⟩

/-- Make several calls, one after the other. -/
def run (calls : List Call) (s : Custody) : Custody :=
  calls.foldl (fun s c => s.call c) s

/-- All descriptors that were handed over. -/
def handed (s : Custody) : List Descriptor :=
  s.bookings.flatMap Booking.handed

/-- Those that a returned frame owns. -/
def owned (s : Custody) : List Descriptor :=
  s.bookings.flatMap Booking.owned

/-- Those that were released, to be closed. -/
def closed (s : Custody) : List Descriptor :=
  s.bookings.flatMap Booking.released

/-- The descriptors that were handed over since a current frame was last dealt with. -/
def handedSince : List Booking → List Descriptor
  | [] => []
  | b :: earlier => if b.outcome.isBoundary then [] else handedSince earlier ++ b.handed

/-- Nothing that was handed over is lost, and what waits came with the current frame. -/
structure Balanced (s : Custody) : Prop where
  places : s.handed.Perm (s.deframer.pending ++ s.owned ++ s.closed)
  pending : s.deframer.pending = handedSince s.bookings

variable {s : Custody}

theorem Balanced.call (h : s.Balanced) (c : Call) : (s.call c).Balanced := by
  have hbooked := booked_call c s.deframer
  unfold Custody.call
  generalize s.deframer.call c = result at hbooked ⊢
  obtain ⟨b, d'⟩ := result
  refine ⟨?_, ?_⟩
  · rw [List.perm_iff_count]
    intro x
    have hplaces := (List.perm_iff_count.mp h.places) x
    have hbalance := congrArg (List.count x) hbooked.balance
    simp only [handed, owned, closed, List.flatMap_cons, List.count_append] at hplaces hbalance ⊢
    omega
  · show d'.pending = if b.outcome.isBoundary then [] else handedSince s.bookings ++ b.handed
    split
    · rename_i hboundary
      exact hbooked.emptied hboundary
    · rename_i hboundary
      rw [hbooked.kept (by simpa using hboundary), h.pending]

/-- The account is balanced after every run. -/
theorem Balanced.run (h : s.Balanced) (calls : List Call) : (s.run calls).Balanced := by
  induction calls generalizing s with
  | nil => exact h
  | cons c rest ih => exact ih (h.call c)

/-- **Descriptors are conserved.** After any calls on a fresh deframer, in any order and with any
bytes and descriptors, each descriptor that was handed over waits, or is owned by one frame that was
returned, or was released, and it is in only one of these places. Those that wait were handed over
since a frame was last returned or found corrupt and no stream was dropped. Every such end leaves
none of them; every other call leaves them all. A returned frame owns what waited and what its call
handed over: one descriptor, or none if it is inline. -/
theorem descriptors_conserved (config : DeframerConfig) (clock : ClockFollower)
    (baseTime : Option Word) (calls : List Call) (next : Call) :
    let s := Custody.run calls ⟨{ config, clock, baseTime }, []⟩
    s.handed.Perm (s.deframer.pending ++ s.owned ++ s.closed) ∧
    s.deframer.pending = handedSince s.bookings ∧
    Booked s.deframer (s.deframer.call next).1 (s.deframer.call next).2 := by
  intro s
  have hfresh : Balanced ⟨{ config, clock, baseTime }, []⟩ := ⟨.refl _, rfl⟩
  have h : s.Balanced := hfresh.run calls
  exact ⟨h.places, h.pending, booked_call next s.deframer⟩

/-- A descriptor comes with the first bytes of a header, another with the rest; neither gets into
the frame that follows. -/
example :
    let header := (Header.referenced 7 0 0).encode
    let s := run [.push (header.take 5) [.pipe], .push (header.drop 5) [.foreignSocket],
      .parse default, .push header [.pipe], .parse default] ⟨{}, []⟩
    s.deframer.pending = [] ∧ s.owned = [.pipe] ∧ s.closed = [.pipe, .foreignSocket] := by
  decide +kernel

end Custody

end Framecast
