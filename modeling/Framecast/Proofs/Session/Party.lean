import Framecast.Proofs.Stream.Part
import Framecast.Proofs.Stream.Script
import Framecast.Proofs.Stream.Source
import Framecast.Session.Exchange

/-!
# Parties

One side of a conversation: what will be received, how what is sent will be taken, and whether waits
can be bounded, all of it fixed in advance.
-/

namespace Framecast

/-- One side of a conversation. -/
structure Party where
  incoming : Source
  outgoing : SendScript
  /-- What the coming calls that bound a wait do. When they are used up, such calls succeed. -/
  bounds : List (Except SocketError Unit) := []
  /-- Descriptors that were closed because nobody wanted them. -/
  released : List Descriptor := []

namespace Party

/-- What comes from the peer, as a part of it. -/
def incomingPart : Part Party Source where
  get := (·.incoming)
  set source party := { party with incoming := source }
  get_set _ _ := rfl
  set_get _ := rfl
  set_set _ _ _ := rfl

/-- What goes to the peer, as a part of it. -/
def outgoingPart : Part Party SendScript where
  get := (·.outgoing)
  set script party := { party with outgoing := script }
  get_set _ _ := rfl
  set_get _ := rfl
  set_set _ _ _ := rfl

/-- Bound the calls on the channel. Whether that works is told in advance. -/
def bound (_ : Option Duration) : StateM Party (Except SocketError Unit) := fun party =>
  (party.bounds.headD (.ok ()), { party with bounds := party.bounds.tail })

/-- A party, to talk with. -/
def channel : Channel (StateM Party) where
  receive size := incomingPart.lift (Source.receiver size)
  send call := outgoingPart.lift (SendScript.sender call)
  setReadTimeout := bound
  setWriteTimeout := bound
  close := pure ()
  release descriptors := fun party =>
    ((), { party with released := party.released ++ descriptors })

end Party

end Framecast
