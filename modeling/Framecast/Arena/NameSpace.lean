import Framecast.Arena.Storage
import Framecast.Files.Tree

/-!
# Names for backing files

A backing file is created under a fresh name and unlinked at once, so that only its descriptor keeps
it alive. Names are numbered by one counter of the whole process. `createUnlinked` tries the next
sixteen numbers and takes the first whose name is free; `claim` is one such try.
-/

namespace Framecast.Arena

/-- What a process draws names from, the tree in which it makes its files, and what these are kept
on. -/
structure NameSpace where
  pid : Nat := 1
  counter : Nat := 0
  files : FileTree := .standard
  storage : Storage := .terabyte
  deriving Inhabited

namespace NameSpace

/-- The name that a process makes of a stem and a number. -/
def nameAt (stem : String) (number : Nat) (s : NameSpace) : String :=
  stem ++ "-" ++ toString s.pid ++ "-" ++ toString number

/-- Create a file and unlink it again. -/
def passThrough (path : String) (t : FileTree) : Except IoError FileTree :=
  match t.create path .file 0o600 with
  | .error e => .error e
  | .ok (_, t) => (t.unlink path).map Prod.snd

/-- Draw a number, create the file of that name and unlink it again. -/
def claim (directory stem : String) (s : NameSpace) : Except IoError Unit × NameSpace :=
  let drawn := { s with counter := s.counter + 1 }
  match passThrough (Path.join directory (s.nameAt stem s.counter)) s.files with
  | .error e => (.error e, drawn)
  | .ok files => (.ok (), { drawn with files := files })

/-- How many names are tried before an allocation is given up. -/
def maxAttempts : Nat := 16

/-- Try up to so many further numbers, passing over names that exist. -/
def createWithin (directory stem : String) :
    Nat → IoError → NameSpace → Except IoError Unit × NameSpace
  | 0, last, s => (.error last, s)
  | attempts + 1, _, s =>
    match s.claim directory stem with
    | (.ok (), s') => (.ok (), s')
    | (.error e, s') =>
      if e.kind = .alreadyExists then createWithin directory stem attempts e s' else (.error e, s')

/-- Create an unlinked file under the first free name among the next sixteen. -/
def createUnlinked (directory stem : String) (s : NameSpace) : Except IoError Unit × NameSpace :=
  createWithin directory stem maxAttempts .alreadyExists s

end NameSpace

end Framecast.Arena
