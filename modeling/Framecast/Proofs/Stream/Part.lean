import Framecast.Frame.Writer
import Framecast.Session.Line

/-!
# Programs on a part of a state

A program that only uses one socket can be run where there is much else besides: on the part of the
state that is the socket. What it does there, and that it does nothing to the rest, is what it does
by itself.
-/

namespace Framecast

/-- A part of a state that can be replaced. -/
structure Part (σ τ : Type) where
  get : σ → τ
  set : τ → σ → σ
  get_set : ∀ t s, get (set t s) = t
  set_get : ∀ s, set (get s) s = s
  set_set : ∀ t t' s, set t' (set t s) = set t' s

namespace Part

variable {σ τ α β : Type}

/-- A program on the part, as one on the whole. -/
def lift (p : Part σ τ) (x : StateM τ α) : StateM σ α := fun s =>
  ((x (p.get s)).1, p.set (x (p.get s)).2 s)

theorem lift_pure (p : Part σ τ) (a : α) : p.lift (pure a) = pure a := by
  funext s
  show (a, p.set (p.get s) s) = (a, s)
  rw [p.set_get]

/-- A program on a part is done step by step. -/
theorem lift_bind (p : Part σ τ) (x : StateM τ α) (next : α → StateM τ β) :
    p.lift (x >>= next) = p.lift x >>= fun a => p.lift (next a) := by
  funext s
  rw [bind_apply]
  unfold lift
  rw [bind_apply, p.get_set, p.set_set]

end Part

variable {σ τ : Type} (p : Part σ τ)

namespace Packet

theorem sendAll_lift (send : Sender (StateM τ)) (data : Bytes) :
    sendAll (fun call => p.lift (send call)) data = p.lift (sendAll send data) := by
  rw [sendAll, sendAll]
  by_cases hempty : data.isEmpty = true
  · rw [if_pos hempty, if_pos hempty, p.lift_pure]
  · rw [if_neg hempty, if_neg hempty, p.lift_bind]
    congr 1
    funext reply
    cases reply with
    | error e => exact (p.lift_pure _).symm
    | ok taken =>
      by_cases h : taken = 0 ∨ data = []
      · dsimp only
        rw [dif_pos h, dif_pos h]
        exact (p.lift_pure _).symm
      · dsimp only
        rw [dif_neg h, dif_neg h]
        exact sendAll_lift send (data.drop taken)
termination_by data.length
decreasing_by exact Bytes.length_drop_lt h

/-- Writing on a part concerns only the part. -/
theorem write_lift (send : Sender (StateM τ)) (blocking : Bool) (packet : Packet) :
    packet.write (fun call => p.lift (send call)) blocking =
      p.lift (packet.write send blocking) := by
  unfold write
  dsimp only
  rw [p.lift_bind]
  congr 1
  funext reply
  cases reply with
  | error e =>
    dsimp only
    by_cases hgive : (!blocking && e.kind == .wouldBlock) = true
    · rw [if_pos hgive, if_pos hgive, p.lift_pure]
    · rw [if_neg hgive, if_neg hgive, p.lift_pure]
  | ok taken =>
    dsimp only
    by_cases htaken : taken = 0
    · rw [if_pos htaken, if_pos htaken, p.lift_pure]
    · rw [if_neg htaken, if_neg htaken, sendAll_lift, p.lift_bind]
      congr 1
      funext reply
      cases reply with
      | error e => exact (p.lift_pure _).symm
      | ok u =>
        dsimp only
        rw [sendAll_lift, p.lift_bind]
        congr 1
        funext reply
        cases reply with
        | error e => exact (p.lift_pure _).symm
        | ok u => exact (p.lift_pure _).symm

end Packet

namespace Line

theorem write_lift (send : Sender (StateM τ)) (patience : Duration) (data : Bytes)
    (descriptors : List Descriptor) :
    write (fun call => p.lift (send call)) patience data descriptors =
      p.lift (write send patience data descriptors) := by
  rw [write, write]
  by_cases hempty : data.isEmpty = true
  · rw [if_pos hempty, if_pos hempty, p.lift_pure]
  · rw [if_neg hempty, if_neg hempty, p.lift_bind]
    congr 1
    funext reply
    cases reply with
    | error e =>
      dsimp only
      by_cases hnone : descriptors.isEmpty = true
      · rw [if_pos hnone, if_pos hnone, p.lift_pure]
      · rw [if_neg hnone, if_neg hnone, p.lift_pure]
    | ok taken =>
      by_cases h : taken = 0 ∨ data = []
      · dsimp only
        rw [dif_pos h, dif_pos h, p.lift_pure]
      · dsimp only
        rw [dif_neg h, dif_neg h]
        exact write_lift send patience (data.drop taken) []
termination_by data.length
decreasing_by exact Bytes.length_drop_lt h

theorem readFrom_lift (receive : Receiver (StateM τ)) (limit : Nat) (patience : Duration)
    (line : Bytes) (descriptors : List Descriptor) :
    readFrom (fun size => p.lift (receive size)) limit patience line descriptors =
      p.lift (readFrom receive limit patience line descriptors) := by
  rw [readFrom, readFrom, p.lift_bind]
  congr 1
  funext reply
  cases reply with
  | error e => exact (p.lift_pure _).symm
  | ok arrival =>
    dsimp only
    by_cases h : arrival.bytes = []
    · rw [dif_pos h, dif_pos h, p.lift_pure]
    · rw [dif_neg h, dif_neg h]
      by_cases hend : (line ++ arrival.bytes).contains newline = true
      · rw [if_pos hend, if_pos hend, p.lift_pure]
      · rw [if_neg hend, if_neg hend]
        by_cases hlimit : limit < (line ++ arrival.bytes).length
        · rw [dif_pos hlimit, dif_pos hlimit, p.lift_pure]
        · rw [dif_neg hlimit, dif_neg hlimit]
          exact readFrom_lift receive limit patience (line ++ arrival.bytes)
            (descriptors ++ arrival.descriptors)
termination_by limit + 1 - line.length
decreasing_by
  have hpos := List.length_pos_iff.mpr h
  simp only [List.length_append] at hlimit ⊢
  omega

theorem read_lift (receive : Receiver (StateM τ)) (limit : Nat) (patience : Duration) :
    read (fun size => p.lift (receive size)) limit patience =
      p.lift (read receive limit patience) :=
  readFrom_lift p receive limit patience [] []

end Line

end Framecast
