import Framecast.Session.Fanout

/-!
# Attachments

What a consumer gets when it attaches. As long as an attachment was not delivered it stands for a
client of a fan-out, which is removed when the attachment is given up. A `commit` lets the client
stay.
-/

namespace Framecast

/-- The client of a fan-out that stands for an attached consumer. -/
structure Registration where
  fanout : Nat
  client : Nat
  deriving DecidableEq, Repr

/-- What a consumer gets when it attaches. -/
structure Attachment where
  /-- The consumer's end of its connection. -/
  channel : Descriptor
  /-- Its place among the descriptors of the answer. -/
  handle : Nat := 0
  caps : String
  /-- The producer's end, as long as it is taken back when the attachment is not delivered. -/
  registration : Option Registration := none
  deriving DecidableEq, Repr, Inhabited

namespace Attachment

/-- Let the producer's end stay whatever becomes of the attachment. -/
def commit (a : Attachment) : Attachment :=
  { a with registration := none }

/-- Give up an attachment. Unless it was committed, its registration is taken back. -/
def giveUp {m : Type → Type} [Monad m] (hosts : Nat → FanoutHost m)
    (release : List Descriptor → m Unit) (a : Attachment) : m Unit := do
  if let some r := a.registration then
    let _ ← Fanout.unregister (hosts r.fanout) r.client
  release [a.channel]

end Attachment

end Framecast
