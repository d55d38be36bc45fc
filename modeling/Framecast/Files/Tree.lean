import Framecast.Files.Path
import Framecast.IoError

/-!
# The tree of files

Every entry has its place under the root and an identity of its own (`inode`). A path is followed
step by step: each step but the last has to be a directory, and what becomes of the last one is for
the operation to say. `entryAt` is the view: `create` adds one entry to it and `remove` takes one
away.
-/

namespace Framecast

/-- The kinds of entries. A device counts as a file. -/
inductive EntryKind where
  | file
  | directory
  | socket
  deriving DecidableEq, Repr

/-- What stands under a name of a directory. -/
structure Entry where
  kind : EntryKind
  /-- Which entry this is, among all there ever were. -/
  inode : Nat
  mode : Nat
  /-- A directory of which the system itself makes all entries. -/
  managed : Bool := false
  deriving DecidableEq, Repr

namespace Entry

/-- Whether the owner may change the entry. -/
def isWritable (e : Entry) : Bool :=
  e.mode / 0o200 % 2 = 1

end Entry

/-- The names on the way from the root to an entry, the last one first. -/
abbrev Place := List String

/-- What the last part of a path speaks of, once the parts before it were followed. -/
inductive Target where
  /-- A directory that the path does not name: the root, or the end of `.` or `..`. -/
  | unnamed (place : Place)
  /-- A name in a directory; a slash behind it asks for a directory. -/
  | named (parent : Place) (name : String) (slash : Bool)
  deriving DecidableEq, Repr

/-- All entries of a file system, each at its place. -/
structure FileTree where
  entries : List (Place × Entry) := []
  /-- Where paths start that do not start at the root. -/
  workingDirectory : Place := []
  nextInode : Nat := 1
  deriving Repr, Inhabited

namespace FileTree

/-- The entry at a place, if there is one. -/
def entryAt (place : Place) (t : FileTree) : Option Entry :=
  t.entries.lookup place

/-- Follow one step of a path that goes on behind it. -/
def enter (t : FileTree) (place : Place) (step : String) : Except IoError Place :=
  if step = "." then .ok place
  else if step = ".." then .ok place.tail
  else if Path.stepLimit < step.utf8ByteSize then .error .nameTooLong
  else
    match t.entryAt (step :: place) with
    | none => .error .notFound
    | some e => if e.kind = .directory then .ok (step :: place) else .error .notADirectory

/-- Follow all but the last step of a path. -/
def target (path : String) (t : FileTree) : Except IoError Target :=
  if Path.hasNul path then
    .error (.described .invalidInput "file name contained an unexpected NUL byte")
  else if path.isEmpty then .error .notFound
  else if Path.limit ≤ path.utf8ByteSize then .error .nameTooLong
  else
    let start := if Path.isAbsolute path then [] else t.workingDirectory
    match Path.steps path with
    | [] => .ok (.unnamed start)
    | last :: before =>
      match before.reverse.foldlM t.enter start with
      | .error e => .error e
      | .ok place =>
        if last = "." then .ok (.unnamed place)
        else if last = ".." then .ok (.unnamed place.tail)
        else if Path.stepLimit < last.utf8ByteSize then .error .nameTooLong
        else .ok (.named place last (Path.endsWithSlash path))

/-- Look a path up: the entry there, if there is one. -/
def lookup (path : String) (t : FileTree) : Except IoError (Option Entry) :=
  match t.target path with
  | .error e => .error e
  | .ok (.unnamed place) => .ok (t.entryAt place)
  | .ok (.named parent name slash) =>
    match t.entryAt (name :: parent) with
    | none => .ok none
    | some e => if slash && e.kind ≠ .directory then .error .notADirectory else .ok (some e)

/-- The entry that a path leads to, if it leads to one. -/
def find? (path : String) (t : FileTree) : Option Entry :=
  match t.lookup path with
  | .ok found => found
  | .error _ => none

/-- Put a new entry at a place. -/
def add (place : Place) (kind : EntryKind) (mode : Nat) (t : FileTree) : Entry × FileTree :=
  let entry : Entry := ⟨kind, t.nextInode, mode, false⟩
  (entry, { t with entries := (place, entry) :: t.entries, nextInode := t.nextInode + 1 })

/-- Take away what is at a place. -/
def remove (place : Place) (t : FileTree) : FileTree :=
  { t with entries := t.entries.filter (·.1 != place) }

/-- What was added is found at its place. -/
theorem entryAt_add_self (place : Place) (kind : EntryKind) (mode : Nat) (t : FileTree) :
    (t.add place kind mode).2.entryAt place = some (t.add place kind mode).1 := by
  simp [add, entryAt]

theorem entryAt_add_ne {place other : Place} (h : other ≠ place) (kind : EntryKind) (mode : Nat)
    (t : FileTree) : (t.add place kind mode).2.entryAt other = t.entryAt other := by
  have hb : (other == place) = false := by simpa using h
  simp [add, entryAt, List.lookup_cons, hb]

/-- What was removed is found no more, and other places keep what is at them. -/
theorem entryAt_remove (place other : Place) (t : FileTree) :
    (t.remove place).entryAt other = if other = place then none else t.entryAt other := by
  unfold remove entryAt
  induction t.entries with
  | nil => exact (ite_self _).symm
  | cons e es ih =>
    rw [List.filter_cons, List.lookup_cons]
    split
    · rename_i hkept
      have hne : e.1 ≠ place := by simpa using hkept
      rw [List.lookup_cons, ih]
      split
      · rename_i hfound
        have heq : other = e.1 := by simpa using hfound
        exact (if_neg (heq ▸ hne)).symm
      · rfl
    · rename_i hdropped
      have he : e.1 = place := by simpa using hdropped
      rw [ih, he]
      split
      · rfl
      · rename_i hother
        rw [beq_eq_false_iff_ne.mpr hother]

theorem entryAt_remove_self (place : Place) (t : FileTree) :
    (t.remove place).entryAt place = none :=
  (entryAt_remove ..).trans (if_pos rfl)

theorem entryAt_remove_ne {place other : Place} (h : other ≠ place) (t : FileTree) :
    (t.remove place).entryAt other = t.entryAt other :=
  (entryAt_remove ..).trans (if_neg h)

/-- Why nothing new can be made in a directory. -/
def closedError? (directory : Place) (t : FileTree) : Option IoError :=
  match t.entryAt directory with
  | none => some .notFound
  | some e =>
    if e.managed then some .notFound
    else if e.isWritable then none
    else some .permissionDenied

/-- Make an entry under a name that is still free. -/
def create (path : String) (kind : EntryKind) (mode : Nat) (t : FileTree) :
    Except IoError (Entry × FileTree) :=
  match t.target path with
  | .error e => .error e
  | .ok (.unnamed _) => .error .alreadyExists
  | .ok (.named parent name slash) =>
    if (t.entryAt (name :: parent)).isSome then .error .alreadyExists
    else if slash && kind ≠ .directory then .error .notFound
    else
      match t.closedError? parent with
      | some e => .error e
      | none => .ok (t.add (name :: parent) kind mode)

/-- Make a directory. -/
def makeDirectory (path : String) (t : FileTree) : Except IoError (Unit × FileTree) :=
  (t.create path .directory 0o755).map fun (_, t) => ((), t)

/-- Write a regular file, which may be there already. -/
def touch (path : String) (t : FileTree) : Except IoError (Unit × FileTree) :=
  match t.target path with
  | .error e => .error e
  | .ok (.unnamed _) => .error .isADirectory
  | .ok (.named parent name slash) =>
    if slash then .error .isADirectory
    else
      match t.entryAt (name :: parent) with
      | none => (t.create path .file 0o644).map fun (_, t) => ((), t)
      | some e =>
        match e.kind, e.isWritable with
        | .directory, _ => .error .isADirectory
        | _, false => .error .permissionDenied
        | .file, true => .ok ((), t)
        | .socket, true => .error .noSuchAddress

/-- Remove an entry that is no directory. -/
def unlink (path : String) (t : FileTree) : Except IoError (Unit × FileTree) :=
  match t.target path with
  | .error e => .error e
  | .ok (.unnamed _) => .error .isADirectory
  | .ok (.named parent name slash) =>
    match t.entryAt (name :: parent) with
    | none => .error .notFound
    | some e =>
      if slash then .error (if e.kind = .directory then .isADirectory else .notADirectory)
      else if (t.closedError? parent).isSome then .error .permissionDenied
      else if e.kind = .directory then .error .isADirectory
      else .ok ((), t.remove (name :: parent))

/-- The names in a directory. -/
def names (directory : Place) (t : FileTree) : List String :=
  t.entries.filterMap fun (place, _) =>
    match place with
    | [] => none
    | name :: parent => if parent = directory then some name else none

/-- A tree of some entries, numbered in order. -/
def ofEntries (entries : List (Place × Entry)) (workingDirectory : Place) : FileTree where
  entries := (entries.zipIdx 1).map fun ((place, e), inode) => (place, { e with inode := inode })
  workingDirectory := workingDirectory
  nextInode := entries.length + 1

/-- The directories that every system has, with their modes. -/
def standardDirectories : List (Place × Nat) :=
  [([], 0o755), (["bin"], 0o755), (["boot"], 0o755), (["dev"], 0o755), (["pts", "dev"], 0o755),
    (["shm", "dev"], 0o1777), (["etc"], 0o755), (["home"], 0o755), (["lib"], 0o755),
    (["lib64"], 0o755), (["media"], 0o755), (["mnt"], 0o755), (["opt"], 0o755), (["root"], 0o700),
    (["run"], 0o755), (["sbin"], 0o755), (["srv"], 0o755), (["sys"], 0o555), (["tmp"], 0o1777),
    (["work", "tmp"], 0o755), (["usr"], 0o755), (["bin", "usr"], 0o755), (["lib", "usr"], 0o755),
    (["local", "usr"], 0o755), (["sbin", "usr"], 0o755), (["share", "usr"], 0o755),
    (["var"], 0o755), (["lib", "var"], 0o755), (["log", "var"], 0o755), (["tmp", "var"], 0o1777)]

/-- The files that every system has, with their modes. -/
def standardFiles : List (Place × Nat) :=
  [(["full", "dev"], 0o666), (["null", "dev"], 0o666), (["random", "dev"], 0o666),
    (["tty", "dev"], 0o666), (["urandom", "dev"], 0o666), (["zero", "dev"], 0o666),
    (["group", "etc"], 0o644), (["hostname", "etc"], 0o644), (["hosts", "etc"], 0o644),
    (["passwd", "etc"], 0o644)]

/-- The tree that a machine starts with. -/
def standard : FileTree :=
  let entry (kind : EntryKind) (managed : Bool) : Place × Nat → Place × Entry :=
    fun (place, mode) => (place, ⟨kind, 0, mode, managed⟩)
  ofEntries
    (standardDirectories.map (entry .directory false) ++ standardFiles.map (entry .file false) ++
      [(["proc"], 0o555), (["self", "proc"], 0o555)].map (entry .directory true))
    ["work", "tmp"]

end FileTree

end Framecast
