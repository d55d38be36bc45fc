import Framecast.Proofs.Session.Party
import Framecast.Session.Producer

/-!
# Halls

A hall is a fan-out with everything that goes on around it: clients are added, removed and rendered
to, consumers attach and their replies are committed, taken apart or dropped, and requests are
answered. How every socket behaves is fixed in advance, by a script of its own. The calls follow one
another, and what they came to is noted.
-/

namespace Framecast

/-- A socket that a fan-out writes to: how it will take what is sent, and what bounding its writes
comes to. -/
structure Outlet where
  script : SendScript
  bounded : Except SocketError Unit := .ok ()

/-- What an attach meets with: how the new connection is made and whether the capabilities become
known in time. -/
structure Attempt where
  connection : Except SocketError Outlet
  caps : Option String

/-- The client that was registered for an attachment, unless it was committed. -/
def Attachment.client? (a : Attachment) : Option Nat :=
  a.registration.map (·.client)

/-- What is noted of the calls on a hall. -/
inductive Hall.Note where
  /-- A client was added directly. -/
  | added (client : Nat)
  /-- An attach succeeded. -/
  | attached (client : Nat)
  /-- The client of an attachment was allowed to stay. -/
  | committed (client : Nat)
  /-- An attachment was given up before that. -/
  | givenUp (client : Nat)
  /-- A client was removed; there was one. -/
  | removed (client : Nat)
  | rendered (rendering : Rendering)

/-- A fan-out with everything that goes on around it. -/
structure Hall where
  fanout : Fanout
  names : Arena.NameSpace
  producer : Producer
  /-- What the clocks show. -/
  clocks : Readings
  /-- The sockets, under numbers that are handed out one after the other. -/
  outlet : SocketId → Outlet
  used : SocketId
  /-- What the attach that is in progress meets with. -/
  attempt : Attempt
  /-- Our side of the conversation that is in progress. -/
  party : Party
  /-- The replies that were not dropped or taken apart, under numbers handed out one after the
  other. -/
  replies : Nat → Option Attachment
  granted : Nat
  /-- What happened, last first. -/
  notes : List Hall.Note

namespace Hall

/-- Write down what happened. -/
def note (n : Note) (h : Hall) : Hall :=
  { h with notes := n :: h.notes }

/-- Note something about the client that was registered for an attachment, unless it was
committed. -/
def noteFor (about : Nat → Note) (a : Attachment) (h : Hall) : Hall :=
  match a.client? with
  | some client => h.note (about client)
  | none => h

/-- A new socket. -/
def opened (outlet : Outlet) (h : Hall) : Hall :=
  { h with outlet := fun id => if id = h.used then outlet else h.outlet id, used := h.used + 1 }

/-- Set the answers of a socket that are still to come. -/
def setScript (socket : SocketId) (script : SendScript) (h : Hall) : Hall :=
  { h with outlet := fun id => if id = socket then ⟨script, (h.outlet id).bounded⟩ else h.outlet id }

/-- The answers of one socket, as a part of the hall. -/
def scriptPart (socket : SocketId) : Part Hall SendScript where
  get h := (h.outlet socket).script
  set := setScript socket
  get_set script h := by
    show (ite _ _ _ : Outlet).script = script
    rw [if_pos rfl]
  set_get h := by
    have hsame : (h.setScript socket (h.outlet socket).script).outlet = h.outlet := by
      funext id
      show (ite _ _ _ : Outlet) = h.outlet id
      split
      · rename_i heq
        rw [heq]
      · rfl
    show { h with outlet := (h.setScript socket (h.outlet socket).script).outlet } = h
    rw [hsame]
  set_set script script' h := by
    unfold setScript
    congr 1
    funext id
    dsimp only
    split <;> rfl

/-- The peer of the conversation under way, as a part of the hall. -/
def partyPart : Part Hall Party where
  get := (·.party)
  set party h := { h with party := party }
  get_set _ _ := rfl
  set_get _ := rfl
  set_set _ _ _ := rfl

/-- A hall, as the place where its fan-out is. Closing a socket changes nothing that anybody looks
at, and the time that passes in a sleep is not told. -/
def host : FanoutHost (StateM Hall) where
  onFanout f := fun h => ((f h.fanout).1, { h with fanout := (f h.fanout).2 })
  onNames f := fun h => ((f h.names).1, { h with names := (f h.names).2 })
  readings := fun h => (h.clocks, h)
  sleep _ := pure ()
  setWriteTimeout socket _ := fun h => ((h.outlet socket).bounded, h)
  send socket := fun call => (scriptPart socket).lift (SendScript.sender call)
  close _ := pure ()

/-- The two ends of a new connection. How the consumer's end behaves does not matter here. -/
def connect (h : Hall) : Except SocketError (SocketId × SocketId) × Hall :=
  match h.attempt.connection with
  | .error e => (.error e, h)
  | .ok outlet => (.ok (h.used, h.used + 1), (h.opened outlet).opened outlet)

/-- A producer in a hall. -/
def producerHost : ProducerHost (StateM Hall) where
  fanout := host
  onProducer f := fun h => ((f h.producer).1, { h with producer := (f h.producer).2 })
  pair := connect
  awaitCaps := fun h => (h.attempt.caps, h)

/-- Closing descriptors changes nothing that is noted. -/
def release (_ : List Descriptor) : StateM Hall Unit :=
  pure ()

/-- The conversation that is in progress. -/
def channel : Channel (StateM Hall) where
  receive size := partyPart.lift (Party.channel.receive size)
  send call := partyPart.lift (Party.channel.send call)
  setReadTimeout timeout := partyPart.lift (Party.channel.setReadTimeout timeout)
  setWriteTimeout timeout := partyPart.lift (Party.channel.setWriteTimeout timeout)
  close := partyPart.lift Party.channel.close
  release descriptors := partyPart.lift (Party.channel.release descriptors)

/-! ### The calls -/

/-- Add a client on a new socket. -/
def add (outlet : Outlet) (h : Hall) : Except SessionError Nat × Hall :=
  match Fanout.register host h.used (h.opened outlet) with
  | (.error e, h) => (.error e, h)
  | (.ok client, h) => (.ok client, h.note (.added client))

/-- Remove a client. -/
def remove (client : Nat) (h : Hall) : Bool × Hall :=
  match Fanout.unregister host client h with
  | (false, h) => (false, h)
  | (true, h) => (true, h.note (.removed client))

/-- Render a buffer to all clients. -/
def render (buffer : Buffer) (now : Readings) (h : Hall) : Except SessionError Rendering × Hall :=
  match Fanout.render host buffer { h with clocks := now } with
  | (.error e, h) => (.error e, h)
  | (.ok rendering, h) => (.ok rendering, h.note (.rendered rendering))

/-- An attach, which meets with what the hall holds ready for it. -/
def welcome (h : Hall) : Except SessionError Attachment × Hall :=
  match Producer.attach producerHost h with
  | (.error e, h) => (.error e, h)
  | (.ok a, h) => (.ok a, h.noteFor .attached a)

/-- An attachment is let go of: its client stays only if it was committed. -/
def giveUp (a : Attachment) (h : Hall) : Hall :=
  (a.giveUp (fun _ => host) release h).2.noteFor .givenUp a

/-- Attach for the one who talks to us. -/
def service : AttachSource (StateM Hall) where
  attach := welcome
  keep a := fun h => ((), (h.noteFor .committed a).giveUp a.commit)
  takeBack a := fun h => ((), h.giveUp a)

/-- Attach a consumer and keep the reply. -/
def attach (attempt : Attempt) (h : Hall) : Except SessionError Attachment × Hall :=
  match welcome { h with attempt := attempt } with
  | (.error e, h) => (.error e, h)
  | (.ok a, h) =>
    (.ok a, { h with
      replies := fun k => if k = h.granted then some a else h.replies k
      granted := h.granted + 1 })

/-- What becomes of a reply. -/
def setReply (reply : Nat) (a : Option Attachment) (h : Hall) : Hall :=
  { h with replies := fun k => if k = reply then a else h.replies k }

/-- Let the client of a reply stay. -/
def commit (reply : Nat) (h : Hall) : Hall :=
  match h.replies reply with
  | none => h
  | some a => (h.setReply reply (some a.commit)).noteFor .committed a

/-- A reply is committed and taken apart. -/
def takeApart (reply : Nat) (h : Hall) : Hall :=
  match h.replies reply with
  | none => h
  | some a => (h.setReply reply none).noteFor .committed a

/-- Drop a reply. A client that was not allowed to stay is removed. -/
def drop (reply : Nat) (h : Hall) : Hall :=
  match h.replies reply with
  | none => h
  | some a => (h.setReply reply none).giveUp a

/-- Answer a request that a peer makes over a channel. -/
def handle (config : EndpointConfig) (attempt : Attempt) (party : Party) (h : Hall) :
    Except SessionError Unit × Hall :=
  Exchange.handle config channel service { h with attempt := attempt, party := party }

/-- One call on a hall. -/
inductive Call where
  | add (outlet : Outlet)
  | remove (client : Nat)
  | render (buffer : Buffer) (now : Readings)
  | attach (attempt : Attempt)
  | commit (reply : Nat)
  | takeApart (reply : Nat)
  | drop (reply : Nat)
  | handle (config : EndpointConfig) (attempt : Attempt) (party : Party)

/-- Make a call. -/
def call (c : Call) (h : Hall) : Hall :=
  match c with
  | .add outlet => (h.add outlet).2
  | .remove client => (h.remove client).2
  | .render buffer now => (h.render buffer now).2
  | .attach attempt => (h.attach attempt).2
  | .commit reply => h.commit reply
  | .takeApart reply => h.takeApart reply
  | .drop reply => h.drop reply
  | .handle config attempt party => (h.handle config attempt party).2

/-- Make several calls, one after the other. -/
def run (calls : List Call) (h : Hall) : Hall :=
  calls.foldl (fun h c => h.call c) h

/-- Nothing has happened yet. -/
def start (framer : Framer) (writeTimeout : Option Duration) (producer : Producer)
    (names : Arena.NameSpace) : Hall where
  fanout := { framer := framer, writeTimeout := writeTimeout }
  names := names
  producer := producer
  clocks := default
  outlet _ := ⟨⟨[], false, []⟩, .ok ()⟩
  used := 0
  attempt := ⟨.error .notConnected, none⟩
  party := ⟨⟨[], false, []⟩, ⟨[], false, []⟩, [], []⟩
  replies _ := none
  granted := 0
  notes := []

end Hall

end Framecast
