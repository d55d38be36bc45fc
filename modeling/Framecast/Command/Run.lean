import Framecast.Command.Help
import Framecast.Command.Failure
import Framecast.Machine.Servers

/-!
# Commands

The subcommands as activities: `serve` renders frames and answers attach requests at the same time,
`watch` prints what it receives, `info` attaches once, `version` prints the version.
-/

namespace Framecast.Command

/-- What a command finds when it starts. -/
structure Context where
  environment : List (String × String) := []
  /-- The flag that an interrupt raises. -/
  interrupt : Nat := 0
  credentials : Credentials := ⟨0, 0, 1⟩
  /-- Seconds of the calendar when the machine was started. -/
  epoch : Nat := 0
  deriving Repr, Inhabited

/-- What a run of the program comes to. -/
structure Outcome where
  code : Nat := ExitCode.success
  lines : List String := []
  failure : Option Failure := none
  deriving DecidableEq, Repr, Inhabited

namespace Outcome

/-- A run that failed after it had printed these lines. -/
def failed (f : Failure) (lines : List String) : Outcome :=
  ⟨f.code, lines, some f⟩

/-- What a run prints. -/
def output (o : Outcome) : String :=
  String.join (o.lines.map (· ++ "\n"))

/-- What a run reports of its failure. -/
def errorOutput (o : Outcome) : String :=
  match o.failure with
  | some f => "error: " ++ f.message ++ "\n"
  | none => ""

end Outcome

/-- A checkpoint whose script is in the environment, under the name of the checkpoint. -/
def Context.checkpoint (name : String) (ctx : Context) : Checkpoint :=
  match ctx.environment.lookup name with
  | some script => .scripted name script
  | none => .disabled name

/-- The version that the program reports. -/
def programVersion : String := "0.1.0"

/-- What is printed when only the version is asked for. -/
def versionLine : String := programName ++ " " ++ programVersion

/-- What is printed when everything about the build is asked for. -/
def versionLines : List String :=
  ["name: " ++ programName,
    "version: " ++ programVersion,
    "target: unknown",
    "target_os: linux",
    "target_arch: x86_64",
    "header_size: " ++ toString Header.length ++ " bytes (little-endian)",
    "arena_dir: " ++ ({} : Arena).directory,
    "features: peer=true, cli=true"]

/-- Print the version. -/
def version (extended : Bool) : Outcome :=
  { lines := if extended then versionLines else [versionLine] }

/-! ## Serving -/

/-- A producer that serves: its fan-out, and the server that consumers attach to. -/
structure Service where
  fanout : Nat
  server : AttachServer

/-- Open a fan-out that follows the machine's clock, and a server for it. -/
def openService (ctx : Context) (a : ServeArguments) : Activity (Except SessionError Service) := do
  let m ← get
  let framer : Framer :=
    { clock := ({} : ClockFollower).attach m.readings 0
      baseTime := m.time
      checkpoint := ctx.checkpoint Checkpoint.frameSendName }
  let fanout ← Machine.openFanout { framer := framer }
  let slot ← Machine.openSlot (some a.caps)
  let producer ← Machine.openProducer
    { fanout := fanout, slot := slot, checkpoint := ctx.checkpoint Checkpoint.attachReturnName }
  match ← Machine.bindServer a.path (.producer producer) {} with
  | .error e => return .error e
  | .ok server => return .ok ⟨fanout, server⟩

/-- Render one frame that is filled with its index; whether that worked. -/
def renderNumbered (fanout : Nat) (size : Word) (index : Nat) : Activity Bool := do
  let m ← get
  let some f := m.fanouts.get? fanout | return false
  let (allocated, arena, names) := f.framer.arena.allocate size {} m.names
  set { m with names := names }
  Machine.onFanout fanout fun f => { f with framer := { f.framer with arena := arena } }
  match allocated with
  | .error _ => return false
  | .ok allocation =>
    let region := (allocation.fill (UInt8.ofNat index)).handOff
    let pts := m.time.satSub f.framer.baseTime
    match ← Machine.render fanout ⟨.region region, some pts⟩ with
    | .ok _ => return true
    | .error _ => return false

/-- The presentation time of a frame, at so many frames per second. -/
def frameTime (fps index : Nat) : Duration :=
  ⟨1000000000 / fps * min index 0xffffffff⟩

/-- How many frames were rendered, and how many were dropped. -/
structure RenderCount where
  rendered : Nat := 0
  dropped : Nat := 0

/-- Render frames at their times until there are enough or an interrupt comes. -/
def renderAll (ctx : Context) (a : ServeArguments) (fanout : Nat) : Activity RenderCount := do
  let start := (← get).now
  Activity.iterate (fun (c : RenderCount) => do
    if (← get).isRaised ctx.interrupt || a.count.any (· ≤ c.rendered) then return .inr c
    else
      let worked ← renderNumbered fanout a.frameSize c.rendered
      let c : RenderCount := ⟨c.rendered + 1, if worked then c.dropped else c.dropped + 1⟩
      let next := start.nanos + (frameTime a.fps c.rendered).nanos
      Activity.await (fun _ => false) (some ⟨next⟩)
      return .inl c) {}

/-- Stop to listen, and let go of all consumers. -/
def closeService (s : Service) : Activity Unit := do
  Machine.unlisten s.server.listener
  for c in (← get).clients s.fanout do
    let _ ← Machine.removeClient s.fanout c.id

/-- Publish numbered frames and answer attach requests. -/
def serve (ctx : Context) (a : ServeArguments) (format : Format) : Activity Outcome := do
  if a.fps = 0 then
    return .failed ⟨ExitCode.usage, "--fps must be greater than zero"⟩ []
  else
    match ← openService ctx a with
    | .error e => return .failed (.ofSession "bind failed" e) []
    | .ok service =>
      let stop ← Machine.newFlag
      let stopped ← Machine.newFlag
      Machine.request (.serve service.server stop stopped)
      let count ← renderAll ctx a service.fanout
      Machine.raise stop
      Activity.await (·.isRaised stopped) none
      let m ← get
      let sent := (m.fanout service.fanout).framer.framesSent
      let summary : ServeSummary :=
        ⟨a.path, a.caps, count.rendered, sent, count.dropped, (m.clients service.fanout).length⟩
      closeService service
      return { lines := summary.lines format }

/-! ## Watching -/

/-- Print frames until there are enough, an interrupt comes or the stream ends. -/
def watchFrames (ctx : Context) (count : Option Nat) (format : Format) (consumer : Nat) :
    Activity Outcome :=
  Activity.iterate (fun ((received, lines) : Nat × List String) => do
    if (← get).isRaised ctx.interrupt || count.any (· ≤ received) then return .inr { lines := lines }
    else
      match ← Machine.nextFrame consumer with
      | .ok (.frame f) =>
        let receivedAt := ctx.epoch + (← get).now.nanos / 1000000000
        Machine.dropFrame f
        let record := FrameRecord.ofFrame received receivedAt f
        return .inl (received + 1, lines ++ record.lines format)
      | .ok .needMoreData => return .inl (received, lines)
      | .ok .flushing => return .inr { lines := lines }
      | .ok .endOfStream =>
        let text := "producer went away after " ++ toString received ++ " frames"
        return .inr (.failed ⟨ExitCode.failure, text⟩ lines)
      | .error e =>
        if e.isLocal then return .inl (received, lines)
        else return .inr (.failed (.ofSession "receive failed" e) lines)
      | .panic message => return .inr (.failed ⟨ExitCode.panicked, message⟩ lines)) (0, [])

/-- Attach to a producer and print the frames that it sends. -/
def watch (ctx : Context) (a : WatchArguments) (format : Format) : Activity Outcome := do
  match timeout? a.timeout with
  | .error f => return .failed f []
  | .ok timeout =>
    let m ← get
    let deframer : Deframer :=
      { clock := ({} : ClockFollower).attach m.readings 0, baseTime := some m.time }
    let service := Framecast.Service.retrying a.path { timeout := timeout } timeout
    let consumer ← Machine.openConsumer service deframer
    match ← Machine.startConsumer consumer with
    | .error e =>
      Machine.closeConsumer consumer
      return .failed (.ofSession "attach failed" e) []
    | .ok _ =>
      if let some c := (← get).consumers.get? consumer then
        Machine.request (.cancelWhen ctx.interrupt c.link)
      let outcome ← watchFrames ctx a.count format consumer
      Machine.closeConsumer consumer
      return outcome

/-! ## Information -/

/-- Attach once, trying for some time while the server is not there. -/
def attachOnce (path : String) (timeout : Duration) : Activity (Except Failure Attachment) := do
  let limit := (← get).after timeout
  Activity.iterate (fun () => do
    match ← Machine.attachClient path { timeout := timeout } with
    | .ok a => return .inr (.ok a)
    | .error e =>
      if e.isRetryable then
        if Wait.isPast (← get).now (some limit) then
          return .inr (.error ⟨ExitCode.timeout, "attach timed out after " ++ timeout.text⟩)
        else
          Activity.sleep Machine.retryInterval
          return .inl ()
      else return .inr (.error (.ofSession "attach failed" e))) ()

/-- Attach to a producer once and print what it tells. -/
def info (ctx : Context) (a : InfoArguments) (format : Format) : Activity Outcome := do
  match timeout? a.timeout with
  | .error f => return .failed f []
  | .ok timeout =>
    let start := (← get).now
    match ← attachOnce a.path timeout with
    | .error f => return .failed f []
    | .ok attachment =>
      let latency : Duration := ⟨(← get).now.nanos - start.nanos⟩
      Machine.discard attachment
      let told : ProducerInfo :=
        ⟨a.path, attachment.caps, attachment.handle, latency, some ctx.credentials⟩
      return { lines := told.lines format }

/-! ## Command lines -/

/-- What is printed when there is no command to run. -/
def usageOutcome (e : UsageError) : Outcome :=
  match e with
  | .displayHelp topic => { lines := helpLines topic }
  | .displayVersion => { lines := [versionLine] }
  | _ => { code := e.exitCode }

/-- Run a subcommand. -/
def Subcommand.run (ctx : Context) (format : Format) : Subcommand → Activity Outcome
  | .serve a => Command.serve ctx a format
  | .watch a => Command.watch ctx a format
  | .info a => Command.info ctx a format
  | .version extended => return Command.version extended

/-- Run a command line, given the format of reports unless it names one. -/
def run (ctx : Context) (format : Format) (words : List String) : Activity Outcome :=
  match Arguments.read words with
  | .error e => return usageOutcome e
  | .ok a => a.subcommand.run ctx (a.format.getD format)

end Framecast.Command
