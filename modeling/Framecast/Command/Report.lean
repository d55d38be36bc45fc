import Framecast.Json.Quoted
import Framecast.Text.Numeral
import Framecast.Frame.Deframer

/-!
# Reports

What commands print on standard output, in one of four formats: `json` on one line, a `table`, a
`pretty` line, or `raw` numbers.
-/

namespace Framecast.Command

/-- How results are printed. -/
inductive Format where
  | json
  | table
  | pretty
  | raw
  deriving DecidableEq, Repr

/-- Texts in one line, with a separator between each two. -/
def between (separator : String) : List String → String
  | [] => ""
  | [x] => x
  | x :: y :: rest => x ++ separator ++ between separator (y :: rest)

/-- A text in its quoted form. -/
def jsonText (s : String) : String :=
  ((Json.quote (Bytes.ofText s)).toText?).getD ""

/-- A JSON object of members whose values are JSON already. -/
def jsonObject (members : List (String × String)) : String :=
  "\x7b" ++ between "," (members.map fun (k, v) => jsonText k ++ ":" ++ v) ++ "\x7d"

/-- A number in digits. -/
def jsonNumber (n : Nat) : String :=
  toString n

/-- A truth value as a word. -/
def jsonBool (b : Bool) : String :=
  if b then "true" else "false"

/-- A presentation time as `h:mm:ss.nnnnnnnnn`. -/
def timeText : Option Word → String
  | none => "none"
  | some pts =>
    let nanos := pts.toNat
    let seconds := nanos / 1000000000
    toString (seconds / 3600) ++ ":" ++ Text.padded 2 (seconds / 60 % 60) ++ ":" ++
      Text.padded 2 (seconds % 60) ++ "." ++ Text.padded 9 (nanos % 1000000000)

/-- A text with blanks behind it, up to a width. -/
def padRight (width : Nat) (s : String) : String :=
  s ++ String.ofList (List.replicate (width - s.length) ' ')

/-- The characters that one kind of horizontal line is drawn with. -/
structure Rule where
  left : String
  fill : Char
  middle : String
  right : String

namespace Rule

/-- The line above a table. -/
def top : Rule := ⟨"┌", '─', "┬", "┐"⟩

/-- The line between the headings and the rows. -/
def header : Rule := ⟨"╞", '═', "╪", "╡"⟩

/-- The line below a table. -/
def bottom : Rule := ⟨"└", '─', "┴", "┘"⟩

/-- A line over columns of the given widths. -/
def draw (rule : Rule) (widths : List Nat) : String :=
  rule.left ++
    between rule.middle (widths.map fun w => String.ofList (List.replicate (w + 2) rule.fill)) ++
    rule.right

end Rule

/-- One row of a table, each cell padded to the width of its column. -/
def tableRow (widths : List Nat) (cells : List String) : String :=
  "│" ++ between "┆" ((widths.zip cells).map fun (w, c) => " " ++ padRight w c ++ " ") ++ "│"

/-- The lines of a table with one row below its header. -/
def table (header cells : List String) : List String :=
  let widths := (header.zip cells).map fun (h, c) => max h.length c.length
  [Rule.top.draw widths, tableRow widths header, Rule.header.draw widths, tableRow widths cells,
    Rule.bottom.draw widths]

/-- What is printed of a frame. -/
structure FrameRecord where
  index : Nat
  size : Word
  pts : Option Word
  captureTimestamp : Word
  /-- Whether the payload came behind a descriptor. -/
  zeroCopy : Bool
  /-- Seconds of the calendar. -/
  receivedAt : Nat
  deriving DecidableEq, Repr

namespace FrameRecord

/-- The record of a frame that was received at this time. -/
def ofFrame (index receivedAt : Nat) (f : Frame) : FrameRecord :=
  ⟨index, f.buffer.size, f.buffer.pts, f.header.captureTimestamp, f.buffer.isShared, receivedAt⟩

/-- The lines that are printed for a frame. -/
def lines (format : Format) (r : FrameRecord) : List String :=
  let index := toString r.index
  let size := toString r.size.toNat
  let captured := toString r.captureTimestamp.toNat
  let zeroCopy := jsonBool r.zeroCopy
  match format with
  | .json =>
    let pts := match r.pts with
      | some t => jsonNumber t.toNat
      | none => "null"
    [jsonObject [("index", index), ("size", size), ("pts", pts), ("capture_timestamp", captured),
      ("zero_copy", zeroCopy), ("received_at", jsonNumber r.receivedAt)]]
  | .table =>
    table ["FRAME", "SIZE", "PTS", "CAPTURED", "ZERO-COPY"]
      [index, size, timeText r.pts, captured, zeroCopy]
  | .pretty =>
    ["frame=" ++ index ++ " size=" ++ size ++ " pts=" ++ timeText r.pts ++ " captured=" ++ captured ++
      " zero_copy=" ++ zeroCopy]
  | .raw => [index ++ " " ++ size]

end FrameRecord

/-- What is printed when serving ends. -/
structure ServeSummary where
  path : String
  caps : String
  rendered : Nat
  sent : Nat
  dropped : Nat
  clients : Nat
  deriving DecidableEq, Repr

/-- The lines of a summary in each format. -/
def ServeSummary.lines (format : Format) (s : ServeSummary) : List String :=
  match format with
  | .json =>
    [jsonObject [("path", jsonText s.path), ("caps", jsonText s.caps),
      ("frames_rendered", jsonNumber s.rendered), ("frames_sent", jsonNumber s.sent),
      ("frames_dropped", jsonNumber s.dropped), ("clients", jsonNumber s.clients)]]
  | .table | .pretty =>
    ["Producer Summary:",
      "  Path:            " ++ s.path,
      "  Caps:            " ++ s.caps,
      "  Frames rendered: " ++ toString s.rendered,
      "  Frames sent:     " ++ toString s.sent,
      "  Frames dropped:  " ++ toString s.dropped,
      "  Clients:         " ++ toString s.clients]
  | .raw => [toString s.sent]

/-- Who runs a process, and which process it is. -/
structure Credentials where
  user : Nat
  group : Nat
  process : Nat
  deriving DecidableEq, Repr

/-- What an attachment tells about a producer. -/
structure ProducerInfo where
  path : String
  caps : String
  handle : Nat
  latency : Duration
  credentials : Option Credentials
  deriving DecidableEq, Repr

namespace ProducerInfo

/-- Hundredths of a millisecond, to the nearest. -/
def latencyHundredths (i : ProducerInfo) : Nat :=
  (i.latency.nanos + 5000) / 10000

/-- The latency in milliseconds with at least one decimal, as JSON has it. -/
def latencyJson (i : ProducerInfo) : String :=
  let n := i.latencyHundredths
  let places := if n % 10 = 0 then toString (n % 100 / 10) else Text.padded 2 (n % 100)
  toString (n / 100) ++ "." ++ places

/-- How long it took to attach, in milliseconds with two digits behind the point. -/
def latencyText (i : ProducerInfo) : String :=
  toString (i.latencyHundredths / 100) ++ "." ++ Text.padded 2 (i.latencyHundredths % 100) ++ "ms"

/-- The lines that are printed about a producer. -/
def lines (format : Format) (i : ProducerInfo) : List String :=
  match format with
  | .json =>
    let credentials := match i.credentials with
      | some c => jsonObject [("uid", jsonNumber c.user), ("gid", jsonNumber c.group),
          ("pid", jsonNumber c.process)]
      | none => "null"
    [jsonObject [("path", jsonText i.path), ("caps", jsonText i.caps),
      ("handle", jsonNumber i.handle), ("attach_latency_ms", i.latencyJson),
      ("peer_credentials", credentials)]]
  | .table | .pretty =>
    ["Producer Info:",
      "  Path:             " ++ i.path,
      "  Caps:             " ++ i.caps,
      "  Handle:           " ++ toString i.handle,
      "  Attach latency:   " ++ i.latencyText,
      match i.credentials with
      | some c => "  Peer credentials: uid=" ++ toString c.user ++ " gid=" ++ toString c.group ++
          " pid=" ++ toString c.process
      | none => "  Peer credentials: unavailable"]
  | .raw => [i.caps]

end ProducerInfo

end Framecast.Command
