/-!
# Paths

A path is a text of steps with slashes between them. It starts at the root if it begins with a
slash, and at the working directory otherwise.
-/

namespace Framecast.Path

/-- A path must be shorter than this many bytes. -/
def limit : Nat := 4096

/-- Bytes that one step may have. -/
def stepLimit : Nat := 255

/-- Whether a path starts at the root. -/
def isAbsolute (path : String) : Bool :=
  path.toList.head? = some '/'

/-- Whether a path asks for a directory at its end. -/
def endsWithSlash (path : String) : Bool :=
  path.toList.getLast? = some '/'

/-- Whether a path cannot be given to the system at all. -/
def hasNul (path : String) : Bool :=
  path.toList.contains '\x00'

/-- The steps between slashes, the last one first. -/
def stepsFrom : List Char → (done : List String) → (step : List Char) → List String
  | [], done, step => if step.isEmpty then done else String.ofList step.reverse :: done
  | c :: rest, done, step =>
    if c ≠ '/' then stepsFrom rest done (c :: step)
    else if step.isEmpty then stepsFrom rest done []
    else stepsFrom rest (String.ofList step.reverse :: done) []

/-- The steps of a path, the last one first. -/
def steps (path : String) : List String :=
  stepsFrom path.toList [] []

/-- The path of a name as seen from a directory; an absolute name needs no directory. -/
def join (directory name : String) : String :=
  if isAbsolute name || directory.isEmpty then name
  else if endsWithSlash directory then directory ++ name
  else directory ++ "/" ++ name

end Framecast.Path
