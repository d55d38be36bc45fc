import Framecast.Proofs.Frame.Sizing
import Framecast.Proofs.Session.Waiting

/-!
# How much is held while sockets are exchanged

A read over a link may bring bytes of another socket than the one that the frame was begun on. What
is held of that frame is dropped first, so the bytes, of which no more than fit were asked for, are
held alone: `moments_safe` is the single call, `allMoments_safe` a run of calls, whatever others do
to the link meanwhile. `receives_are_sized` tells this together with what is known of a single
socket.
-/

namespace Framecast

namespace Deframer

variable {d : Deframer} {limit : Word} {now : Readings}

/-- Noting where bytes come from changes no limit, and holds no more than before. -/
theorem setStream_keeps (g : Nat) (d : Deframer) : (d.setStream g).1.config = d.config ∧
    (d.setStream g).1.backlog.length ≤ d.backlog.length := by
  unfold setStream
  split
  · exact ⟨rfl, Nat.le_refl _⟩
  · split
    · exact ⟨rfl, Nat.le_refl _⟩
    · exact ⟨rfl, Nat.zero_le _⟩

theorem Fits.setStream (h : d.Fits limit) (g : Nat) : (d.setStream g).1.Fits limit := by
  obtain ⟨hconfig, hless⟩ := setStream_keeps g d
  refine ⟨?_, Nat.le_trans hless h.length⟩
  rw [hconfig]
  exact h.accepts

/-- The moments of taking in what a read over a link brought. -/
def receivedMoments (now : Readings) (received : Received) (d : Deframer) : List Moment :=
  match received with
  | .flushing => []
  | .endOfStream => [⟨d.reset.1, none⟩]
  | .data arrival g =>
    let kept := (d.setStream g).1
    ⟨kept, none⟩ :: kept.fillMoments now arrival

theorem getLast?_receivedMoments (now : Readings) (received : Received) (m : Moment) :
    (m :: m.deframer.receivedMoments now received).getLast?.map (·.deframer) =
      some (m.deframer.absorbReceived now received).deframer := by
  cases received with
  | flushing => rfl
  | endOfStream => rfl
  | data arrival g =>
    rw [(absorbReceived_data now arrival g m.deframer).2]
    rfl

/-- Receiving what was asked for keeps all moments safe. -/
theorem receivedMoments_safe (h : d.Fits limit) (hnone : (d.parse now).result = .ok none)
    {received : Received}
    (hsize : ∀ arrival g, received = .data arrival g → arrival.bytes.length ≤ d.wanted)
    (later : Readings) : ∀ m ∈ d.receivedMoments later received, m.Safe limit := by
  cases received with
  | flushing => exact List.forall_mem_nil _
  | endOfStream => exact List.forall_mem_singleton.mpr h.reset.safe
  | data arrival g =>
    obtain ⟨hconfig, hless⟩ := setStream_keeps g d
    have hfits := h.fill hnone hconfig hless (hsize arrival g rfl)
    refine List.forall_mem_cons.mpr ⟨(h.setStream g).safe, ?_⟩
    exact forall_fillMoments hfits.safe (hfits.looked later)

end Deframer

namespace Scene

open Deframer

variable {limit : Word} {d : Deframer} {s s' : Scene} {steps : Nat}

/-- The moments of a call that reads over a link. A read that waits for ever has none behind it. -/
def moments (steps : Nat) (d : Deframer) (s : Scene) : List Moment :=
  d.callMoments s.now
    (match receiveOver steps d.wanted s.tick with
    | some (.ok received, s') => d.receivedMoments s'.now received
    | _ => [])

/-- The moments of up to so many calls one after the other. -/
def allMoments (steps : Nat) : (calls : Nat) → Deframer → Scene → List Moment
  | 0, d, _ => [⟨d, none⟩]
  | calls + 1, d, s =>
    ⟨d, none⟩ :: moments steps d s ++
      match pull steps d s with
      | none => []
      | some ((_, d, _), s) => allMoments steps calls d s

/-- A read brings no more than it was asked for. -/
theorem length_receiveOver_le {size : Nat} {arrival : Arrival} {g : Nat}
    (h : receiveOver steps size s = some (.ok (.data arrival g), s')) :
    arrival.bytes.length ≤ size := by
  obtain ⟨-, chunk, hchunk, rfl, -⟩ := (receiveOver_traced h).1
  rw [Stretch.arrival_bytes, Stretch.length_bytes]
  exact hchunk

/-- A call over a link: what fits before it fits at every moment of it. -/
theorem moments_safe (h : d.Fits limit) (steps : Nat) (s : Scene) :
    ∀ m ∈ moments steps d s, m.Safe limit := by
  unfold moments
  refine forall_callMoments (h.looked s.now) ?_
  intro hnone
  split
  · rename_i received s' hreceive
    refine receivedMoments_safe h hnone ?_ s'.now
    intro arrival g hdata
    rw [hdata] at hreceive
    exact length_receiveOver_le hreceive
  · exact List.forall_mem_nil _

/-- A call leaves the deframer as it is at one of its moments, the last one. -/
theorem getLast?_moments {call : Result SessionError FrameOutcome × Deframer × List Descriptor}
    (h : pull steps d s = some (call, s')) :
    (moments steps d s).getLast?.map (·.deframer) = some call.2.1 := by
  unfold moments
  by_cases hnone : (d.parse s.now).result = .ok none
  · rw [pull_of_parse_eq steps hnone] at h
    rw [callMoments_of_parse_eq hnone]
    rcases hreceive : receiveOver steps d.wanted s.tick with _ | ⟨_ | received, s₁⟩
    · rw [hreceive] at h
      cases h
    · rw [hreceive] at h
      cases h
      rfl
    · rw [hreceive] at h
      cases h
      exact getLast?_receivedMoments s₁.now received ⟨d, some (.ok none)⟩
  · rw [pull_of_parse_ne steps hnone] at h
    cases h
    rw [callMoments_of_parse_ne hnone]
    rfl

/-- All moments of a run are safe. -/
theorem allMoments_safe (h : d.Fits limit) (steps calls : Nat) (s : Scene) :
    ∀ m ∈ allMoments steps calls d s, m.Safe limit := by
  induction calls generalizing d s with
  | zero => exact List.forall_mem_singleton.mpr h.safe
  | succ calls ih =>
    have hcall := moments_safe h steps s
    rw [allMoments]
    refine List.forall_mem_cons.mpr ⟨h.safe, List.forall_mem_append.mpr ⟨hcall, ?_⟩⟩
    cases hpull : pull steps d s with
    | none => exact List.forall_mem_nil _
    | some called =>
      obtain ⟨call, s₁⟩ := called
      -- The next call begins at the last moment of this one.
      obtain ⟨last, hlast, hnext⟩ := Option.map_eq_some_iff.mp (getLast?_moments hpull)
      have hfits := (hcall last (List.mem_of_getLast? hlast)).fits
      rw [hnext] at hfits
      exact ih hfits s₁

end Scene

/-- However a stream is cut and whatever it brings: a deframer that has just found nothing asks for
at least one byte, for no more than the frame lacks and for one read chunk at most, and it never
holds more than a header and the largest payload. Over one socket it never holds anything behind
the current frame, so that nothing is ever refused for bytes behind its header. -/
theorem receives_are_sized (config : DeframerConfig) (clock : ClockFollower)
    (baseTime : Option Word) :
    let fresh : Deframer := { config, clock, baseTime }
    (∀ (socket : Source) (clocks : List Readings),
      ∀ m ∈ Deframer.pullsMoments Source.receiver clocks fresh socket,
        m.Safe config.maxInline ∧ m.OneFrame) ∧
      ∀ (scene : Scene) (steps calls : Nat), ∀ m ∈ Scene.allMoments steps calls fresh scene,
        m.Safe config.maxInline := by
  intro fresh
  have hfits : fresh.Fits config.maxInline := ⟨rfl, Nat.zero_le _⟩
  refine ⟨?_, ?_⟩
  · intro socket clocks
    exact Deframer.pullsMoments_sized clocks hfits (Deframer.single_of_empty rfl) socket
  · intro scene steps calls
    exact Scene.allMoments_safe hfits steps calls scene

/-- Over a link there can be such bytes: what was asked for a payload of one socket brings a header
of the next one, and more. -/
example :
    let begun := Deframer.push (Header.inlined 1 30).encode [] { stream := some 0 }
    let marked := (Header.referenced 1 0 1).encode ++ List.replicate 6 0
    begun.wanted = 30 ∧ (((begun.setStream 1).1.push marked []).parse default).result =
      .error (.corrupt (.trailingBytes 6)) := by
  constructor
  · decide
  · rfl

end Framecast
