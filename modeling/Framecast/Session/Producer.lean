import Framecast.Session.Attachment

/-!
# Producers

A producer lets consumers attach to its fan-out as soon as the capabilities of its stream are known.
A consumer is registered with the fan-out first; `conclude` decides whether the attach succeeds, and
if it does not, the registration is taken back.
-/

namespace Framecast

/-- What consumers attach to. -/
structure Producer where
  fanout : Nat
  /-- Where the capabilities of the stream become known. -/
  slot : Nat
  checkpoint : Checkpoint := .disabled Checkpoint.attachReturnName
  capsTimeout : Duration := .ofSeconds 20
  deriving DecidableEq, Repr, Inhabited

/-- What a producer needs of the place where it is. -/
structure ProducerHost (m : Type → Type) where
  fanout : FanoutHost m
  /-- One step on the producer, which nothing interrupts. -/
  onProducer : {α : Type} → (Producer → α × Producer) → m α
  /-- A new connection: our end and theirs. -/
  pair : m (Except SocketError (SocketId × SocketId))
  /-- Wait for the capabilities, but no longer than the producer lets consumers wait. -/
  awaitCaps : m (Option String)

namespace Producer

/-- Decide an attach, given the capabilities if they became known in time. The checkpoint is only
passed when they did; the sleeps it asks for come first. -/
def conclude (caps : Option String) (p : Producer) :
    (List Duration × Except SessionError String) × Producer :=
  match caps with
  | none => (([], .error (.capsTimeout p.capsTimeout)), p)
  | some caps =>
    let (sleeps, verdict, checkpoint) := p.checkpoint.check
    let p' := { p with checkpoint := checkpoint }
    match verdict with
    | .passed => ((sleeps, .ok caps), p')
    | .failed | .aborted => ((sleeps, .error (.refused (.injected p.checkpoint.fault))), p')

variable {m : Type → Type} [Monad m]

/-- Register one end of a new connection and hand out the other. If the attach fails, nothing is
left of it. -/
def attach (host : ProducerHost m) : m (Except SessionError Attachment) := do
  match ← host.pair with
  | .error e => return .error (.socket e)
  | .ok (ours, theirs) =>
    match ← Fanout.register host.fanout ours with
    | .error e =>
      host.fanout.close theirs
      return .error e
    | .ok client =>
      let caps ← host.awaitCaps
      let fanout ← host.onProducer fun p => (p.fanout, p)
      let (sleeps, result) ← host.onProducer (conclude caps)
      host.fanout.sleep sleeps
      match result with
      | .ok caps =>
        return .ok { channel := .socket theirs, caps := caps, registration := some ⟨fanout, client⟩ }
      | .error e =>
        let _ ← Fanout.unregister host.fanout client
        host.fanout.close theirs
        return .error e

end Producer

end Framecast
