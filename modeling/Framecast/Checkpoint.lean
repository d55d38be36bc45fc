import Framecast.Duration
import Framecast.Text.Blank
import Framecast.IoError

/-!
# Checkpoints

A checkpoint is a fixed place in the data path where a script can make things go wrong. A script is
a list of words: `skip` lets one check pass, `error` (or `gerror`) fails one, `abort` ends the
program, and `usleep=N` makes the check that reads it sleep before it reads on. A word that is none
of these cuts the script short. A check whose script is used up passes.
-/

namespace Framecast

/-- A word of a checkpoint's script. -/
inductive CheckpointCommand where
  | skip
  | sleep (time : Duration)
  | fail
  | abort
  deriving DecidableEq, Repr

/-- A place where a script can inject failures. -/
structure Checkpoint where
  name : String
  script : List CheckpointCommand := []
  deriving DecidableEq, Repr, Inhabited

/-- How a check ended. -/
inductive Verdict where
  | passed
  | failed
  | aborted
  deriving DecidableEq, Repr

/-- The failure that a checkpoint injects. -/
structure InjectedFault where
  checkpoint : String
  deriving DecidableEq, Repr

namespace InjectedFault

/-- What the error of a fault reads. -/
def message (fault : InjectedFault) : String :=
  "fault injected at " ++ fault.checkpoint

/-- A fault as the caller of a checkpoint sees it where it handles input and output errors. -/
def toIoError (fault : InjectedFault) : IoError :=
  .described .other fault.message

end InjectedFault

namespace CheckpointCommand

/-- The command that a word of a script stands for. A sleep is given in microseconds. -/
def ofWord? (word : List Char) : Option CheckpointCommand :=
  if word = "skip".toList then some skip
  else if word = "error".toList ∨ word = "gerror".toList then some fail
  else if word = "abort".toList then some abort
  else if "usleep=".toList.isPrefixOf word then
    (Text.bounded? 0x10000000000000000 (word.drop 7)).map fun n => sleep (.ofMicros n)
  else none

/-- The commands of a text: those of its words up to the first that is no command. -/
def parse (text : String) : List CheckpointCommand :=
  ((Text.words text.toList).map ofWord?).takeWhile Option.isSome |>.filterMap id

end CheckpointCommand

namespace Checkpoint

/-- The checkpoint that a framer passes before each packet. -/
def frameSendName : String := "frame_send"

/-- The checkpoint that a producer passes after a consumer was registered. -/
def attachReturnName : String := "attach_pre_return"

/-- A checkpoint that follows the commands of a text. -/
def scripted (name text : String) : Checkpoint :=
  ⟨name, CheckpointCommand.parse text⟩

/-- A checkpoint without commands: it is passed at once, every time. -/
def disabled (name : String) : Checkpoint :=
  ⟨name, []⟩

/-- What one check does with a script: the sleeps it performs, its verdict and what it leaves. -/
def consume : List CheckpointCommand → List Duration × Verdict × List CheckpointCommand
  | [] => ([], .passed, [])
  | .skip :: rest => ([], .passed, rest)
  | .fail :: rest => ([], .failed, rest)
  | .abort :: rest => ([], .aborted, rest)
  | .sleep time :: rest =>
    let (sleeps, verdict, left) := consume rest
    (time :: sleeps, verdict, left)

/-- Pass a checkpoint: sleep as the script says and take the first verdict in it. -/
def check (c : Checkpoint) : List Duration × Verdict × Checkpoint :=
  let (sleeps, verdict, left) := consume c.script
  (sleeps, verdict, { c with script := left })

/-- The verdicts of so many checks, one after the other. -/
def verdicts : Nat → Checkpoint → List Verdict
  | 0, _ => []
  | checks + 1, c =>
    let (_, verdict, left) := c.check
    verdict :: verdicts checks left

/-- The fault that a checkpoint injects. -/
def fault (c : Checkpoint) : InjectedFault :=
  ⟨c.name⟩

end Checkpoint

end Framecast
