import Framecast.Session.Error
import Framecast.Text.Blank

/-!
# Failures of commands

A command that fails ends with an exit code and a message. The code tells scripts what kind of
failure it was; the message names the step that failed and the cause.
-/

namespace Framecast.Command

namespace ExitCode

/-- All went well. -/
def success : Nat := 0

/-- The producer is not there, or it refused. -/
def failure : Nat := 1

/-- A socket did not do what was asked of it. -/
def socketFailure : Nat := 3

/-- The file system did not permit it. -/
def permissionDenied : Nat := 50

/-- What came over a socket was no frame, or no message. -/
def invalidData : Nat := 60

/-- The command line was wrong. -/
def usage : Nat := 64

/-- The program broke off. -/
def panicked : Nat := 101

/-- Something did not come in time. -/
def timeout : Nat := 124

/-- Any other failure. -/
def internal : Nat := 125

end ExitCode

/-- Why a command failed. -/
structure Failure where
  code : Nat
  message : String
  deriving DecidableEq, Repr

namespace Failure

/-- A failure of a step, with its cause in words. -/
def inStep (code : Nat) (step cause : String) : Failure :=
  ⟨code, step ++ ": " ++ cause⟩

/-- The exit code for an error of the system, by its kind. -/
def codeOfKind : ErrorKind → Nat
  | .permissionDenied => ExitCode.permissionDenied
  | .timedOut | .wouldBlock => ExitCode.timeout
  | .notFound | .connectionRefused => ExitCode.failure
  | _ => ExitCode.internal

/-- A step failed with an error of the system. -/
def ofIo (step : String) (e : IoError) : Failure :=
  inStep (codeOfKind e.kind) step e.message

/-- Of a socket error that comes from the system, only the system's part is told. -/
def ofSocket (step : String) (e : SocketError) : Failure :=
  match e with
  | .bind _ cause | .connect _ cause | .accept cause | .io cause => ofIo step cause
  | .pathTooLong .. => inStep ExitCode.usage step e.message
  | .pair _ | .attach _ | .notConnected | .shutDown => inStep ExitCode.socketFailure step e.message

/-- A step failed on a frame. -/
def ofFrame (step : String) (e : FrameError) : Failure :=
  match e with
  | .socket cause => ofSocket step cause
  | .corrupt _ | .payloadTooLarge .. => inStep ExitCode.invalidData step e.message
  | .closed => inStep ExitCode.failure step e.message
  | .allocation .. => inStep ExitCode.internal step e.message

/-- A step failed in a session with a peer. -/
def ofSession (step : String) (e : SessionError) : Failure :=
  match e with
  | .socket cause => ofSocket step cause
  | .frame cause => ofFrame step cause
  | .capsTimeout _ | .timedOut _ => inStep ExitCode.timeout step e.message
  | .malformed fault => inStep ExitCode.invalidData step fault.message
  | .refused _ => inStep ExitCode.failure step e.message

end Failure

/-- Read a timeout: a number above zero with the unit `ms` or `s`, which may be left out. -/
def timeout? (text : String) : Except Failure Duration :=
  let trimmed := Text.trim text.toList
  let ending (suffix : String) := suffix.toList.isSuffixOf trimmed
  let (number, unit) :=
    if ending "ms" then (trimmed.dropLast.dropLast, Duration.ofMillis)
    else if ending "s" then (trimmed.dropLast, Duration.ofSeconds)
    else (trimmed, Duration.ofSeconds)
  if trimmed.isEmpty then .error ⟨ExitCode.usage, "timeout must not be empty"⟩
  else
    match Text.bounded? 0x10000000000000000 number with
    | none =>
      .error ⟨ExitCode.usage, "invalid timeout value: " ++ String.ofList trimmed⟩
    | some 0 => .error ⟨ExitCode.usage, "timeout must be greater than zero"⟩
    | some n => .ok (unit n)

end Framecast.Command
