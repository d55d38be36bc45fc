import Framecast.Main
import Framecast.Machine.Bench
import Framecast.Machine.Probe
import Framecast.Machine.Resource
import Framecast.Clock.Manual
import Framecast.Command.Run
import Framecast.Socket.Feed
import Framecast.Text.Hex
import Framecast.Proofs.Stream.Script
import Framecast.Proofs.Frame.RoundTrip
import Framecast.Proofs.Frame.Boundaries
import Framecast.Proofs.Frame.Extent
import Framecast.Proofs.Session.Origin
import Framecast.Proofs.Session.HandOff
import Framecast.Proofs.Session.Lifecycle
import Framecast.Proofs.Session.Registry
import Framecast.Proofs.Session.Agreement
import Framecast.Proofs.Session.Wakeups
import Framecast.Proofs.Session.Interlude
import Framecast.Proofs.Session.Recovery
import Framecast.Proofs.Session.Overlap
import Framecast.Proofs.Session.Replacement
import Framecast.Proofs.Frame.Custody
import Framecast.Proofs.Clock.Carry
import Framecast.Proofs.Frame.Presentation
import Framecast.Proofs.Frame.OneToOne
import Framecast.Proofs.Frame.Atomicity
import Framecast.Proofs.Frame.Presence
import Framecast.Proofs.Frame.Alike
import Framecast.Proofs.Session.Direct
import Framecast.Proofs.Session.Relay
import Framecast.Proofs.Session.Reattachment
import Framecast.Proofs.Session.LineLimit
import Framecast.Proofs.Memory.Layout
import Framecast.Proofs.Memory.Allocation
import Framecast.Proofs.Files.Walk
import Framecast.Proofs.Clock.Inverse
import Framecast.Proofs.Clock.Samples
import Framecast.Proofs.Memory.Contents
import Framecast.Proofs.Memory.Names
import Framecast.Proofs.Memory.Workshop
import Framecast.Proofs.Wire.Layout
import Framecast.Proofs.Checkpoint.Script
import Framecast.Proofs.Clock.Spacing
import Framecast.Proofs.Checkpoint.Callers
import Framecast.Proofs.Socket.Binding
import Framecast.Proofs.Socket.Harbour
import Framecast.Proofs.Command.Timeout
import Framecast.Proofs.Session.Sizing
import Framecast.Proofs.Memory.Rounding
