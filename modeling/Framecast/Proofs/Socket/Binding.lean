import Framecast.Proofs.Files.Walk
import Framecast.Socket.Listener

/-!
# Binding and cleaning up

What a listener does to the tree of files. Binding either leaves the tree as it was or puts a socket
of its own where there was none but an old one (`bindOn_cases`): once the old socket is gone nothing
can keep the new one from being made. Cleaning up removes a socket with the inode that the listener
recorded, or nothing (`cleanUp_cases`).
-/

namespace Framecast

namespace FileTree

variable {t t' : FileTree} {path : String} {place : Place}

/-! ### Places for sockets -/

/-- The path names this place, in a directory that new things can be made in. -/
inductive Admits (t : FileTree) (path : String) : Place → Prop
  | intro {parent : Place} {name : String} {d : Entry}
      (target : t.target path = .ok (.named parent name false))
      (found : t.entryAt parent = some d) (directory : d.kind = .directory)
      (free : t.closedError? parent = none) : Admits t path (name :: parent)

/-- Nothing is there, or a socket. -/
def HasRoom (t : FileTree) (place : Place) : Prop :=
  ∀ e, t.entryAt place = some e → e.kind = .socket

theorem Admits.find?_eq (h : t.Admits path place) : t.find? path = t.entryAt place := by
  obtain ⟨htarget, -, -, -⟩ := h
  exact find?_of_named htarget

/-- A path leads where it led as long as all directories stay. -/
theorem Admits.of_directories (h : t.Admits path place)
    (hmore : ∀ place e, e.kind = .directory → t.entryAt place = some e →
      t'.entryAt place = some e)
    (hstart : t'.workingDirectory = t.workingDirectory) : t'.Admits path place := by
  obtain ⟨htarget, hfound, hdirectory, hfree⟩ := h
  have hfound' := hmore _ _ hdirectory hfound
  refine ⟨target_of_directories hmore hstart htarget, hfound', hdirectory, ?_⟩
  unfold closedError? at hfree ⊢
  rwa [hfound', ← hfound]

/-- No directory is lost where there was room for a socket. -/
theorem HasRoom.directories (hroom : t.HasRoom place)
    (hothers : ∀ other, other ≠ place → t'.entryAt other = t.entryAt other) (other : Place)
    (e : Entry) (hkind : e.kind = .directory) (hentry : t.entryAt other = some e) :
    t'.entryAt other = some e := by
  have hne : other ≠ place := by
    rintro rfl
    rw [hroom e hentry] at hkind
    cases hkind
  rw [hothers other hne, hentry]

/-! ### Making and unlinking -/

/-- When an entry is made, and what then. -/
theorem create_eq_ok_iff {kind : EntryKind} (hkind : kind ≠ .directory) {mode : Nat}
    {made : Entry × FileTree} :
    t.create path kind mode = .ok made ↔
      ∃ parent name, t.target path = .ok (.named parent name false) ∧
        t.entryAt (name :: parent) = none ∧ t.closedError? parent = none ∧
        t.add (name :: parent) kind mode = made := by
  constructor
  · intro h
    unfold create at h
    split at h
    · cases h
    · cases h
    · rename_i parent name slash htarget
      split at h
      · cases h
      rename_i hentry
      split at h
      · cases h
      rename_i hslash
      split at h
      · cases h
      rename_i hfree
      rw [Option.not_isSome_iff_eq_none] at hentry
      have hslash : slash = false := by simpa [hkind] using hslash
      subst hslash
      exact ⟨parent, name, htarget, hentry, hfree, Except.ok.inj h⟩
  · rintro ⟨parent, name, htarget, hnone, hfree, rfl⟩
    simp [create, htarget, hnone, hfree]

/-- When an entry is removed, and what then. -/
theorem unlink_eq_ok_iff {result : Unit × FileTree} :
    t.unlink path = .ok result ↔
      ∃ parent name e, t.target path = .ok (.named parent name false) ∧
        t.entryAt (name :: parent) = some e ∧ t.closedError? parent = none ∧
        e.kind ≠ .directory ∧ ((), t.remove (name :: parent)) = result := by
  constructor
  · intro h
    unfold unlink at h
    split at h
    · cases h
    · cases h
    · rename_i parent name slash htarget
      split at h
      · cases h
      rename_i e hentry
      split at h
      · cases h
      rename_i hslash
      split at h
      · cases h
      rename_i hfree
      split at h
      · cases h
      rename_i hkind
      rw [Bool.not_eq_true] at hslash
      rw [Option.not_isSome_iff_eq_none] at hfree
      subst hslash
      exact ⟨parent, name, e, htarget, hentry, hfree, hkind, Except.ok.inj h⟩
  · rintro ⟨parent, name, e, htarget, hentry, hfree, hkind, rfl⟩
    simp [unlink, htarget, hentry, hfree, hkind]

/-! ### Putting a socket somewhere -/

/-- The tree with a new socket in place of what was there. -/
def withSocket (place : Place) (mode : Nat) (t : FileTree) : FileTree :=
  ((t.remove place).add place .socket mode).2

theorem entryAt_withSocket_self (place : Place) (mode : Nat) (t : FileTree) :
    (t.withSocket place mode).entryAt place = some ⟨.socket, t.nextInode, mode, false⟩ :=
  entryAt_add_self place .socket mode (t.remove place)

theorem entryAt_withSocket_ne {other : Place} (h : other ≠ place) (mode : Nat) (t : FileTree) :
    (t.withSocket place mode).entryAt other = t.entryAt other := by
  rw [withSocket, entryAt_add_ne h, entryAt_remove_ne h]

end FileTree

namespace Listener

variable {t t' : FileTree} {path : String} {mode : Nat}

/-! ### Binding -/

/-- Bind one step at a time: what a step did stays done if a later one fails. -/
def bindOn (path : String) (mode : Nat) (t : FileTree) :
    Except SocketError Listener × FileTree :=
  if pathLimit ≤ path.utf8ByteSize then
    (.error (.pathTooLong path path.utf8ByteSize pathLimit), t)
  else
    match clearStale path t with
    | .error e => (.error (.bind path e), t)
    | .ok cleared =>
      match cleared.create path .socket (mode % 0o10000) with
      | .error e => (.error (.bind path e), cleared)
      | .ok (entry, t) => (.ok ⟨path, entry.inode, []⟩, t)

/-- Binding step by step is binding. -/
theorem bind_eq_bindOn (path : String) (mode : Nat) (t : FileTree) :
    bind path mode t = (bindOn path mode t).1.map (·, (bindOn path mode t).2) := by
  unfold bind bindOn
  split
  · rfl
  · cases clearStale path t with
    | error e => rfl
    | ok cleared =>
      dsimp only [Bind.bind, Except.bind]
      cases cleared.create path .socket (mode % 0o10000) with
      | error e => rfl
      | ok made => rfl

/-- All that clearing a path can come to. -/
inductive Cleared (path : String) (t : FileTree) : FileTree → Prop
  | nothing : Cleared path t t
  | stale {parent : Place} {name : String} {e : Entry}
      (target : t.target path = .ok (.named parent name false))
      (entry : t.entryAt (name :: parent) = some e) (socket : e.kind = .socket)
      (free : t.closedError? parent = none) : Cleared path t (t.remove (name :: parent))

theorem cleared_of_clearStale (h : clearStale path t = .ok t') : Cleared path t t' := by
  unfold clearStale at h
  cases hlookup : t.lookup path with
  | error e =>
    rw [hlookup] at h
    dsimp only at h
    split at h
    · cases h
      exact .nothing
    · cases h
  | ok found =>
    rw [hlookup] at h
    cases found with
    | none =>
      cases h
      exact .nothing
    | some e =>
      dsimp only at h
      split at h
      · rename_i hsocket
        cases hunlink : t.unlink path with
        | error cause =>
          rw [hunlink] at h
          cases h
        | ok result =>
          rw [hunlink] at h
          obtain ⟨parent, name, e', htarget, hentry, hfree, -, rfl⟩ :=
            FileTree.unlink_eq_ok_iff.mp hunlink
          cases h
          rw [FileTree.lookup_of_named htarget] at hlookup
          exact .stale htarget (Except.ok.inj hlookup) hsocket hfree
      · cases h

/-- Removing an old socket takes no directory away, so that the path goes on leading there. -/
theorem create_after_remove {parent : Place} {name : String}
    (htarget : t.target path = .ok (.named parent name false))
    (hfree : t.closedError? parent = none) (hroom : t.HasRoom (name :: parent)) (mode : Nat) :
    (t.remove (name :: parent)).create path .socket mode =
      .ok ((t.remove (name :: parent)).add (name :: parent) .socket mode) := by
  have hothers (other : Place) (h : other ≠ name :: parent) :
      (t.remove (name :: parent)).entryAt other = t.entryAt other :=
    FileTree.entryAt_remove_ne h t
  have hparent : (t.remove (name :: parent)).closedError? parent = none := by
    unfold FileTree.closedError? at hfree ⊢
    rwa [hothers parent (List.cons_ne_self name parent).symm]
  exact (FileTree.create_eq_ok_iff (by decide)).mpr ⟨parent, name,
    FileTree.target_of_directories (hroom.directories hothers) rfl htarget,
    FileTree.entryAt_remove_self _ t, hparent, rfl⟩

/-- Where there is room for it, the socket is made. -/
theorem bindOn_of_room {parent : Place} {name : String} (hsize : path.utf8ByteSize < pathLimit)
    (htarget : t.target path = .ok (.named parent name false))
    (hfree : t.closedError? parent = none) (hroom : t.HasRoom (name :: parent)) (mode : Nat) :
    bindOn path mode t =
      (.ok ⟨path, t.nextInode, []⟩, t.withSocket (name :: parent) (mode % 0o10000)) := by
  have hcleared : clearStale path t = .ok (t.remove (name :: parent)) := by
    rw [clearStale, FileTree.lookup_of_named htarget]
    cases hentry : t.entryAt (name :: parent) with
    | none => rw [FileTree.remove_of_absent hentry]
    | some e =>
      have hsocket := hroom e hentry
      have hkind : e.kind ≠ .directory := by
        rw [hsocket]
        decide
      have hunlink := FileTree.unlink_eq_ok_iff.mpr
        ⟨parent, name, e, htarget, hentry, hfree, hkind, rfl⟩
      dsimp only
      rw [if_pos hsocket, hunlink]
      rfl
  rw [bindOn, if_neg (Nat.not_le_of_lt hsize), hcleared]
  dsimp only
  rw [create_after_remove htarget hfree hroom]
  rfl

/-- All that binding can come to. -/
inductive Bound (path : String) (mode : Nat) (t : FileTree) :
    Except SocketError Listener × FileTree → Prop
  | refused (e : SocketError) : Bound path mode t (.error e, t)
  | made {parent : Place} {name : String} (size : path.utf8ByteSize < pathLimit)
      (target : t.target path = .ok (.named parent name false))
      (room : t.HasRoom (name :: parent)) :
      Bound path mode t
        (.ok ⟨path, t.nextInode, []⟩, t.withSocket (name :: parent) (mode % 0o10000))

/-- What binding comes to, case by case. -/
theorem bindOn_cases (path : String) (mode : Nat) (t : FileTree) :
    Bound path mode t (bindOn path mode t) := by
  by_cases hsize : path.utf8ByteSize < pathLimit
  · cases hclear : clearStale path t with
    | error e =>
      rw [bindOn, if_neg (Nat.not_le_of_lt hsize), hclear]
      exact .refused _
    | ok cleared =>
      cases cleared_of_clearStale hclear with
      | stale htarget hentry hsocket hfree =>
        have hroom : t.HasRoom _ := fun e h => by
          rw [hentry, Option.some.injEq] at h
          exact h ▸ hsocket
        rw [bindOn_of_room hsize htarget hfree hroom]
        exact .made hsize htarget hroom
      | nothing =>
        cases hcreate : t.create path .socket (mode % 0o10000) with
        | error e =>
          rw [bindOn, if_neg (Nat.not_le_of_lt hsize), hclear]
          dsimp only
          rw [hcreate]
          exact .refused _
        | ok made =>
          obtain ⟨parent, name, htarget, hnone, hfree, -⟩ :=
            (FileTree.create_eq_ok_iff (by decide)).mp hcreate
          have hroom : t.HasRoom (name :: parent) := fun e h => by
            rw [hnone] at h
            cases h
          rw [bindOn_of_room hsize htarget hfree hroom]
          exact .made hsize htarget hroom
  · rw [bindOn, if_pos (Nat.le_of_not_lt hsize)]
    exact .refused _

/-- Nothing but a socket has to make room. -/
theorem bindOn_of_other {e : Entry} (hsize : path.utf8ByteSize < pathLimit)
    (hfind : t.find? path = some e) (hkind : e.kind ≠ .socket) (mode : Nat) :
    bindOn path mode t =
      (.error (.bind path (.described .alreadyExists "existing path is not a unix socket")),
        t) := by
  rw [bindOn, if_neg (Nat.not_le_of_lt hsize), clearStale, FileTree.lookup_of_find? hfind]
  dsimp only
  rw [if_neg hkind]

/-! ### Cleaning up -/

variable {l : Listener}

/-- A listener owns its path as long as the socket there is the one it made. -/
theorem owns_iff :
    l.owns t = true ↔ ∃ e, t.find? l.path = some e ∧ e.kind = .socket ∧ e.inode = l.inode := by
  unfold owns
  cases t.find? l.path with
  | none => simp
  | some e => simp

/-- All that cleaning up can come to. -/
inductive CleanedUp (l : Listener) (t : FileTree) : FileTree → Prop
  | kept : CleanedUp l t t
  | removed {parent : Place} {name : String} {e : Entry}
      (target : t.target l.path = .ok (.named parent name false))
      (entry : t.entryAt (name :: parent) = some e) (socket : e.kind = .socket)
      (inode : e.inode = l.inode) : CleanedUp l t (t.remove (name :: parent))

/-- What cleaning up comes to, case by case. -/
theorem cleanUp_cases (l : Listener) (t : FileTree) : CleanedUp l t (l.cleanUp t) := by
  unfold cleanUp
  split
  · rename_i howns
    obtain ⟨e, hfind, hsocket, hinode⟩ := owns_iff.mp howns
    split
    · rename_i hunlink
      obtain ⟨parent, name, e', htarget, hentry, -, -, hremoved⟩ :=
        FileTree.unlink_eq_ok_iff.mp hunlink
      rw [FileTree.find?_of_named htarget] at hfind
      cases hremoved
      exact .removed htarget hfind hsocket hinode
    · exact .kept
  · exact .kept

theorem cleanUp_of_not_owns (h : l.owns t = false) : l.cleanUp t = t := by
  rw [cleanUp, h, if_neg Bool.false_ne_true]

theorem cleanUp_of_owns {place : Place} (h : l.owns t = true) (hadmits : t.Admits l.path place) :
    l.cleanUp t = t.remove place := by
  obtain ⟨e, hfind, hsocket, -⟩ := owns_iff.mp h
  have hkind : e.kind ≠ .directory := by
    rw [hsocket]
    decide
  obtain ⟨htarget, -, -, hfree⟩ := hadmits
  rw [FileTree.find?_of_named htarget] at hfind
  have hunlink := FileTree.unlink_eq_ok_iff.mpr ⟨_, _, e, htarget, hfind, hfree, hkind, rfl⟩
  rw [cleanUp, if_pos h, hunlink]

end Listener

end Framecast
