import Framecast.Command.Arguments

/-!
# Help

The account of the command line that is printed on request: of all of it, or of one subcommand.
Every part is a list of rows, a left column as wide as its widest entry and what the entry does.
-/

namespace Framecast.Command

/-- The name that the program goes by in its texts. -/
def programName : String := "shmpipe"

/-- An entry of a help page, and what it is for. -/
abbrev HelpRow := String × String

/-- Rows with a left column as wide as its widest entry. -/
def helpRows (rows : List HelpRow) : List String :=
  let width := rows.foldl (fun w (left, _) => max w left.length) 0
  rows.map fun (left, account) => "  " ++ padRight width left ++ "  " ++ account

/-- The choice of values that an option has. -/
def choiceText (names : List String) : String :=
  "[possible values: " ++ between ", " names ++ "]"

/-- The entry for the output format. -/
def formatRow : HelpRow :=
  ("    --format <FORMAT>", "Output format " ++ choiceText (formatNames.map Prod.fst))

/-- The entry for the form of log lines. -/
def logFormatRow : HelpRow :=
  ("    --log-format <FORMAT>",
    "Log output format (stderr) [default: text] " ++ choiceText ["text", "json"])

/-- The entry for the least severity that is logged. -/
def logLevelRow : HelpRow :=
  ("    --log-level <LEVEL>",
    "Minimum log level (stderr). `RUST_LOG` takes precedence [default: info] " ++
      choiceText logLevels)

/-- The entry for the help page itself. -/
def helpRow : HelpRow := ("-h, --help", "Print help")

/-- The entry for the path, which each subcommand accounts for in its own way. -/
def pathRow (account : String) : HelpRow := ("<PATH>", account)

/-- The entries for the subcommands. -/
def subcommandRows : List HelpRow :=
  [("serve", "Publish synthetic frames and serve the attach endpoint"),
    ("watch", "Attach to a producer and print received frames"),
    ("info", "Attach once and print the producer's capability string"),
    ("version", "Show version information"),
    ("help", "Print this message or the help of the given subcommand(s)")]

/-- What a help page shows, part by part. -/
structure HelpPage where
  about : String
  usage : String
  arguments : List HelpRow := []
  commands : List HelpRow := []
  options : List HelpRow := []

namespace HelpPage

/-- One part of a page, if there is anything in it. -/
def part (title : String) (rows : List HelpRow) : List String :=
  if rows.isEmpty then [] else ["", title ++ ":"] ++ helpRows rows

/-- A help page, line by line. Parts without entries are left out. -/
def lines (p : HelpPage) : List String :=
  [p.about, "", "Usage: " ++ programName ++ " " ++ p.usage] ++ part "Commands" p.commands ++
    part "Arguments" p.arguments ++ part "Options" p.options

/-- The help page of the program. -/
def top : HelpPage where
  about := "Zero-copy video frame transport"
  usage := "[OPTIONS] <COMMAND>"
  commands := subcommandRows
  options := [formatRow, logFormatRow, logLevelRow, helpRow, ("-V, --version", "Print version")]

/-- The entries for what a subcommand takes without a name. -/
def argumentsOf (name : String) : List HelpRow :=
  if name = "serve" then [pathRow "Socket path to bind the attach endpoint on"]
  else if name = "watch" ∨ name = "info" then [pathRow "Attach endpoint socket path"]
  else if name = "help" then [("[COMMAND]...", "Print help for the subcommand(s)")]
  else []

/-- The entries for the options of a subcommand. -/
def optionsOf (name : String) : List HelpRow :=
  if name = "serve" then
    [("    --caps <CAPS>",
        "Capability string handed to consumers [default: " ++ defaultCaps ++ "]"),
      formatRow,
      ("    --frame-size <FRAME_SIZE>",
        "Bytes per frame. Default: one 1280x720 BGR frame [default: 2764800]"),
      logFormatRow, ("    --fps <FPS>", "Frames per second [default: 30]"), logLevelRow,
      ("    --count <COUNT>", "Exit after rendering N frames"), helpRow]
  else if name = "watch" then
    [("    --count <COUNT>", "Exit after receiving N frames"), formatRow, logFormatRow,
      ("    --timeout <TIMEOUT>", "Per-request attach timeout (e.g. 5s, 500ms) [default: 5s]"),
      logLevelRow, helpRow]
  else if name = "info" then
    [formatRow,
      ("    --timeout <TIMEOUT>", "Overall timeout, including waiting for the endpoint to appear " ++
        "(e.g. 5s, 500ms) [default: 5s]"),
      logFormatRow, logLevelRow, helpRow]
  else if name = "version" then
    [("    --extended", "Show extended build provenance"), formatRow, logFormatRow, logLevelRow,
      helpRow]
  else []

/-- What follows the name of a subcommand in its usage. -/
def wordsOf (name : String) : String :=
  if name = "version" then "[OPTIONS]"
  else if name = "help" then "[COMMAND]..."
  else "[OPTIONS] <PATH>"

/-- The help page of a subcommand. -/
def ofSubcommand (name : String) : HelpPage where
  about := (subcommandRows.lookup name).getD ""
  usage := name ++ " " ++ wordsOf name
  arguments := argumentsOf name
  options := optionsOf name

end HelpPage

/-- The help page that was asked for: that of a subcommand, or that of the program. -/
def helpLines (topic : Option String) : List String :=
  ((topic.map HelpPage.ofSubcommand).getD HelpPage.top).lines

end Framecast.Command
