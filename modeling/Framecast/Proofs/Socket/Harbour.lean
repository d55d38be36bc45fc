import Framecast.Proofs.Socket.Binding

/-!
# Listeners that come and go

Listeners are bound and dropped in any order, and in between others change the tree of files as they
like. An inode is given out once, so that a listener's inode tells its socket from all others
(`Sound`); hence a listener takes away its own socket and nothing else
(`listeners_remove_only_their_own`).
-/

namespace Framecast

namespace FileTree

variable {t t' : FileTree} {place : Place}

/-! ### Identities -/

/-- The inode of every entry was given out already. -/
def Numbered (t : FileTree) : Prop :=
  ∀ place e, t.entryAt place = some e → e.inode < t.nextInode

/-- What may become of a tree: an entry that is there afterwards is new or was there before, here or
elsewhere, and inodes are not given out twice. -/
structure Alters (t t' : FileTree) : Prop where
  numbered : t'.Numbered
  nextInode_le : t.nextInode ≤ t'.nextInode
  old : ∀ place e, t'.entryAt place = some e → e.inode < t.nextInode →
    ∃ before e', t.entryAt before = some e' ∧ e'.inode = e.inode ∧ e'.kind = e.kind

theorem Numbered.refl (h : t.Numbered) : t.Alters t :=
  ⟨h, Nat.le_refl _, fun place e hentry _ => ⟨place, e, hentry, rfl, rfl⟩⟩

theorem Numbered.remove (h : t.Numbered) (place : Place) : t.Alters (t.remove place) := by
  have hbefore (other : Place) (e : Entry) (hentry : (t.remove place).entryAt other = some e) :
      t.entryAt other = some e := by
    have hne : other ≠ place := by
      rintro rfl
      rw [entryAt_remove_self] at hentry
      cases hentry
    rwa [entryAt_remove_ne hne] at hentry
  exact ⟨fun other e hentry => h other e (hbefore other e hentry), Nat.le_refl _,
    fun other e hentry _ => ⟨other, e, hbefore other e hentry, rfl, rfl⟩⟩

theorem Numbered.put (h : t.Numbered) (place : Place) (kind : EntryKind) (mode : Nat) :
    t.Alters ((t.remove place).add place kind mode).2 := by
  have hother {other : Place} (hne : other ≠ place) :
      ((t.remove place).add place kind mode).2.entryAt other = t.entryAt other := by
    rw [entryAt_add_ne hne, entryAt_remove_ne hne]
  refine ⟨?_, Nat.le_succ _, ?_⟩
  · intro other e hentry
    by_cases hne : other = place
    · rw [hne, entryAt_add_self] at hentry
      cases hentry
      exact Nat.lt_succ_self _
    · rw [hother hne] at hentry
      exact Nat.lt_succ_of_lt (h other e hentry)
  · intro other e hentry hold
    by_cases hne : other = place
    · rw [hne, entryAt_add_self] at hentry
      cases hentry
      exact absurd hold (Nat.lt_irrefl _)
    · rw [hother hne] at hentry
      exact ⟨other, e, hentry, rfl, rfl⟩

theorem numbered_ofEntries (entries : List (Place × Entry)) (start : Place) :
    (ofEntries entries start).Numbered := by
  intro place e hentry
  obtain ⟨before, behind, hentries, -⟩ := List.lookup_eq_some_iff.mp hentry
  have hmem : (place, e) ∈ (ofEntries entries start).entries := by
    rw [hentries]
    exact List.mem_append_right _ List.mem_cons_self
  obtain ⟨⟨⟨place', e'⟩, inode⟩, hnumber, heq⟩ := List.mem_map.mp hmem
  cases heq
  have := (List.mem_zipIdx hnumber).2.1
  show inode < entries.length + 1
  omega

end FileTree

/-- Something that others do to the tree of files. -/
structure Outsider where
  change : FileTree → FileTree
  lawful : ∀ t : FileTree, t.Numbered → t.Alters (change t)

/-- Others put something new at a place, whatever was there. -/
def Outsider.put (place : Place) (kind : EntryKind) (mode : Nat) : Outsider where
  change t := ((t.remove place).add place kind mode).2
  lawful _ h := h.put place kind mode

/-- Somebody deletes what is at a place. -/
def Outsider.delete (place : Place) : Outsider where
  change t := t.remove place
  lawful _ h := h.remove place

/-- A listener that was bound. -/
structure Berth where
  listener : Listener
  /-- What was at its path when it had been bound. -/
  created : Option Entry
  deriving DecidableEq, Repr

namespace Berth

/-- Whether an entry is the one that the listener created. -/
def made (b : Berth) (e : Entry) : Bool :=
  b.created.any (·.inode == e.inode)

end Berth

/-- The tree of files with all listeners that were ever bound. -/
structure Harbour where
  tree : FileTree
  /-- The listeners in the order in which they were bound. -/
  berths : List Berth := []
  /-- The numbers of the listeners that were dropped. -/
  dropped : List Nat := []

namespace Harbour

/-- One thing done in a harbour. -/
inductive Act where
  | bind (path : String) (mode : Nat)
  | drop (number : Nat)
  | outside (o : Outsider)

/-- Bind a listener, and keep the entry that it made. -/
def bind (path : String) (mode : Nat) (h : Harbour) : Except SocketError Listener × Harbour :=
  match Listener.bindOn path mode h.tree with
  | (.error e, tree) => (.error e, { h with tree := tree })
  | (.ok l, tree) =>
    (.ok l, { h with tree := tree, berths := h.berths ++ [⟨l, tree.find? path⟩] })

/-- Drop the listener with the given number, if there is one that was not dropped yet. -/
def drop (number : Nat) (h : Harbour) : Harbour :=
  if number ∈ h.dropped then h
  else
    match h.berths[number]? with
    | none => h
    | some b => { h with tree := b.listener.cleanUp h.tree, dropped := number :: h.dropped }

/-- One thing done in a harbour. -/
def step (h : Harbour) : Act → Harbour
  | .bind path mode => (h.bind path mode).2
  | .drop number => h.drop number
  | .outside o => { h with tree := o.change h.tree }

/-- Several things done in a harbour, one after the other. -/
def run (acts : List Act) (h : Harbour) : Harbour :=
  acts.foldl step h

/-- A tree of some entries before the first listener is bound. -/
def start (entries : List (Place × Entry)) (workingDirectory : Place) : Harbour :=
  { tree := .ofEntries entries workingDirectory }

variable {h : Harbour} {b : Berth} {e : Entry} {path : String} {place : Place} {mode number : Nat}

/-! ### What binding and dropping come to -/

/-- After a socket was made at a place. -/
def moor (path : String) (place : Place) (mode : Nat) (h : Harbour) : Harbour :=
  { h with
    tree := h.tree.withSocket place (mode % 0o10000)
    berths := h.berths ++ [⟨⟨path, h.tree.nextInode, []⟩,
      some ⟨.socket, h.tree.nextInode, mode % 0o10000, false⟩⟩] }

theorem bind_of_made {parent : Place} {name : String}
    (hbind : Listener.bindOn path mode h.tree =
      (.ok ⟨path, h.tree.nextInode, []⟩, h.tree.withSocket (name :: parent) (mode % 0o10000)))
    (htarget : h.tree.target path = .ok (.named parent name false))
    (hroom : h.tree.HasRoom (name :: parent)) :
    h.bind path mode = (.ok ⟨path, h.tree.nextInode, []⟩, h.moor path (name :: parent) mode) := by
  have hothers (other : Place) (hne : other ≠ name :: parent) :=
    FileTree.entryAt_withSocket_ne hne (mode % 0o10000) h.tree
  have hfind : (h.tree.withSocket (name :: parent) (mode % 0o10000)).find? path =
      some ⟨.socket, h.tree.nextInode, mode % 0o10000, false⟩ := by
    rw [FileTree.find?_of_named
      (FileTree.target_of_directories (hroom.directories hothers) rfl htarget),
      FileTree.entryAt_withSocket_self]
  rw [bind, hbind]
  dsimp only
  rw [hfind]
  rfl

/-- All that binding can come to. -/
inductive Bound (path : String) (mode : Nat) (h : Harbour) :
    Except SocketError Listener × Harbour → Prop
  | refused (e : SocketError) : Bound path mode h (.error e, h)
  | made {parent : Place} {name : String}
      (target : h.tree.target path = .ok (.named parent name false))
      (room : h.tree.HasRoom (name :: parent)) :
      Bound path mode h (.ok ⟨path, h.tree.nextInode, []⟩, h.moor path (name :: parent) mode)

/-- What a bind comes to in a harbour, case by case. -/
theorem bind_cases (path : String) (mode : Nat) (h : Harbour) :
    Bound path mode h (h.bind path mode) := by
  have hcases := Listener.bindOn_cases path mode h.tree
  generalize hbind : Listener.bindOn path mode h.tree = outcome at hcases
  cases hcases with
  | refused e =>
    rw [bind, hbind]
    exact .refused e
  | made hsize htarget hroom =>
    rw [bind_of_made hbind htarget hroom]
    exact .made htarget hroom

/-- All that dropping a listener can come to. -/
inductive Dropped (number : Nat) (h : Harbour) : Harbour → Prop
  | nothing (hnone : number ∈ h.dropped ∨ h.berths[number]? = none) : Dropped number h h
  | cleaned {b : Berth} (berth : h.berths[number]? = some b) (fresh : number ∉ h.dropped) :
      Dropped number h
        { h with tree := b.listener.cleanUp h.tree, dropped := number :: h.dropped }

/-- What a drop comes to in a harbour, case by case. -/
theorem drop_cases (number : Nat) (h : Harbour) : Dropped number h (h.drop number) := by
  unfold drop
  split
  · rename_i hdropped
    exact .nothing (.inl hdropped)
  · rename_i hfresh
    split
    · rename_i hnone
      exact .nothing (.inr hnone)
    · rename_i b hberth
      exact .cleaned hberth hfresh

/-- All that can become of the tree when a listener is dropped. -/
inductive Swept (number : Nat) (h : Harbour) : FileTree → Prop
  | nothing : Swept number h h.tree
  | one {b : Berth} {place : Place} {e : Entry} (berth : h.berths[number]? = some b)
      (entry : h.tree.entryAt place = some e) (socket : e.kind = .socket)
      (inode : e.inode = b.listener.inode) : Swept number h (h.tree.remove place)

theorem tree_drop_cases (number : Nat) (h : Harbour) : Swept number h (h.drop number).tree := by
  have hcases := drop_cases number h
  generalize h.drop number = after at hcases
  cases hcases with
  | nothing => exact .nothing
  | @cleaned b hb _ =>
    have hclean := Listener.cleanUp_cases b.listener h.tree
    show Swept number h (b.listener.cleanUp h.tree)
    generalize b.listener.cleanUp h.tree = tree at hclean
    cases hclean with
    | kept => exact .nothing
    | removed _ hentry hsocket hinode => exact .one hb hentry hsocket hinode

/-! ### What holds at every moment -/

/-- What holds of a harbour whatever was done: every listener made an entry of its own, and entries
under its number are sockets. -/
structure Sound (h : Harbour) : Prop where
  numbered : h.tree.Numbered
  created : ∀ b ∈ h.berths, ∃ e, b.created = some e ∧ e.inode = b.listener.inode
  given : ∀ b ∈ h.berths, b.listener.inode < h.tree.nextInode
  distinct : h.berths.Pairwise fun b c => b.listener.inode < c.listener.inode
  sockets : ∀ b ∈ h.berths, ∀ place e, h.tree.entryAt place = some e →
    e.inode = b.listener.inode → e.kind = .socket
  dropped : ∀ number ∈ h.dropped, number < h.berths.length

/-- Nothing that may become of the tree brings a listener's inode back for something else. -/
theorem Sound.alter (hs : Sound h) {tree : FileTree} (halters : h.tree.Alters tree) :
    Sound { h with tree := tree } where
  numbered := halters.numbered
  created := hs.created
  given b hb := Nat.lt_of_lt_of_le (hs.given b hb) halters.nextInode_le
  distinct := hs.distinct
  sockets b hb place e hentry hinode := by
    obtain ⟨before, e', hbefore, hsame, hkind⟩ :=
      halters.old place e hentry (hinode ▸ hs.given b hb)
    rw [← hkind]
    exact hs.sockets b hb before e' hbefore (hsame.trans hinode)
  dropped := hs.dropped

theorem Sound.moor (hs : Sound h) (path : String) (place : Place) (mode : Nat) :
    Sound (h.moor path place mode) := by
  have halters : h.tree.Alters (h.tree.withSocket place (mode % 0o10000)) :=
    hs.numbered.put place .socket _
  have hold := hs.alter halters
  refine ⟨halters.numbered, ?_, ?_, ?_, ?_, ?_⟩
  · intro b hb
    rcases List.mem_append.mp hb with hb | hb
    · exact hs.created b hb
    · cases List.mem_singleton.mp hb
      exact ⟨_, rfl, rfl⟩
  · intro b hb
    rcases List.mem_append.mp hb with hb | hb
    · exact hold.given b hb
    · cases List.mem_singleton.mp hb
      exact Nat.lt_succ_self _
  · refine List.pairwise_append.mpr ⟨hs.distinct, List.pairwise_singleton _ _, ?_⟩
    intro b hb c hc
    cases List.mem_singleton.mp hc
    exact hs.given b hb
  · intro b hb other e hentry hinode
    rcases List.mem_append.mp hb with hb | hb
    · exact hold.sockets b hb other e hentry hinode
    · cases List.mem_singleton.mp hb
      by_cases hne : other = place
      · rw [hne] at hentry
        have hself := FileTree.entryAt_withSocket_self place (mode % 0o10000) h.tree
        cases hentry.symm.trans hself
        rfl
      · -- An older entry has an older inode.
        have hsame := FileTree.entryAt_withSocket_ne hne (mode % 0o10000) h.tree
        have := hs.numbered other e (hsame.symm.trans hentry)
        dsimp only at hinode
        omega
  · intro number hnumber
    have := hs.dropped number hnumber
    rw [Harbour.moor, List.length_append]
    omega

theorem alters_drop (hnumbered : h.tree.Numbered) (number : Nat) :
    h.tree.Alters (h.drop number).tree := by
  have hcases := tree_drop_cases number h
  generalize (h.drop number).tree = tree at hcases
  cases hcases with
  | nothing => exact hnumbered.refl
  | one => exact hnumbered.remove _

theorem berths_drop (number : Nat) (h : Harbour) : (h.drop number).berths = h.berths := by
  unfold drop
  split
  · rfl
  · split <;> rfl

theorem Sound.drop (hs : Sound h) (number : Nat) : Sound (h.drop number) := by
  have hafter := hs.alter (alters_drop hs.numbered number)
  have hberths := berths_drop number h
  refine ⟨hafter.numbered, hberths ▸ hafter.created, hberths ▸ hafter.given,
    hberths ▸ hafter.distinct, hberths ▸ hafter.sockets, ?_⟩
  rw [hberths]
  have hcases := drop_cases number h
  generalize h.drop number = after at hcases
  cases hcases with
  | nothing => exact hs.dropped
  | cleaned hb _ =>
    intro other hother
    rcases List.mem_cons.mp hother with rfl | hother
    · exact (List.getElem?_eq_some_iff.mp hb).1
    · exact hs.dropped other hother

theorem Sound.step (hs : Sound h) (act : Act) : Sound (h.step act) := by
  cases act with
  | bind path mode =>
    have hcases := bind_cases path mode h
    rw [Harbour.step]
    generalize h.bind path mode = outcome at hcases
    cases hcases with
    | refused e => exact hs
    | made => exact hs.moor path _ mode
  | drop number => exact hs.drop number
  | outside o => exact hs.alter (o.lawful h.tree hs.numbered)

/-- A harbour is sound whatever was done in it. -/
theorem Sound.run (hs : Sound h) (acts : List Act) : Sound (h.run acts) := by
  induction acts generalizing h with
  | nil => exact hs
  | cons act acts ih => exact ih (hs.step act)

theorem sound_start (entries : List (Place × Entry)) (workingDirectory : Place) :
    Sound (start entries workingDirectory) where
  numbered := FileTree.numbered_ofEntries entries workingDirectory
  created _ hb := absurd hb List.not_mem_nil
  given _ hb := absurd hb List.not_mem_nil
  distinct := .nil
  sockets _ hb := absurd hb List.not_mem_nil
  dropped _ hnumber := absurd hnumber List.not_mem_nil

/-! ### Whose an entry is -/

/-- A listener's own entry is told by its inode. -/
theorem Sound.made_iff (hs : Sound h) (hb : b ∈ h.berths) (e : Entry) :
    b.made e = true ↔ e.inode = b.listener.inode := by
  obtain ⟨c, hc, hinode⟩ := hs.created b hb
  rw [Berth.made, hc, Option.any_some, beq_iff_eq, hinode, eq_comm]

/-- No two listeners made the same entry. -/
theorem Sound.eq_of_made (hs : Sound h) {j k : Nat} {c : Berth} (hb : h.berths[j]? = some b)
    (hc : h.berths[k]? = some c) (hbe : b.made e = true) (hce : c.made e = true) : j = k := by
  rw [hs.made_iff (List.mem_of_getElem? hb)] at hbe
  rw [hs.made_iff (List.mem_of_getElem? hc)] at hce
  obtain ⟨hj, rfl⟩ := List.getElem?_eq_some_iff.mp hb
  obtain ⟨hk, rfl⟩ := List.getElem?_eq_some_iff.mp hc
  have hlt := List.pairwise_iff_getElem.mp hs.distinct
  rcases Nat.lt_trichotomy j k with h | h | h
  · have := hlt j k hj hk h
    omega
  · exact h
  · have := hlt k j hk hj h
    omega

/-- A listener cleans up what it finds at its path if it made it. -/
theorem Sound.owns_eq (hs : Sound h) (hb : b ∈ h.berths) :
    b.listener.owns h.tree = (h.tree.find? b.listener.path).any b.made := by
  rw [Bool.eq_iff_iff, Listener.owns_iff]
  constructor
  · rintro ⟨e, hfind, -, hinode⟩
    rw [hfind, Option.any_some]
    exact (hs.made_iff hb e).mpr hinode
  · intro hany
    obtain ⟨e, hfind, hmade⟩ := (Option.any_eq_true _ _).mp hany
    have hinode := (hs.made_iff hb e).mp hmade
    obtain ⟨place, hentry⟩ := FileTree.entryAt_of_find? hfind
    exact ⟨e, hfind, hs.sockets b hb place e hentry hinode, hinode⟩

/-! ### What dropping a listener leaves -/

theorem drop_of_open (hb : h.berths[number]? = some b) (hopen : number ∉ h.dropped) :
    h.drop number =
      { h with tree := b.listener.cleanUp h.tree, dropped := number :: h.dropped } := by
  rw [drop, if_neg hopen, hb]

/-- Dropping a listener removes its own socket. -/
theorem Sound.tree_drop_of_made (hs : Sound h) (hb : h.berths[number]? = some b)
    (hopen : number ∉ h.dropped)
    (hmade : (h.tree.find? b.listener.path).any b.made = true)
    (hadmits : h.tree.Admits b.listener.path place) :
    (h.drop number).tree = h.tree.remove place := by
  rw [drop_of_open hb hopen]
  exact Listener.cleanUp_of_owns ((hs.owns_eq (List.mem_of_getElem? hb)).trans hmade) hadmits

theorem Sound.tree_drop_of_other (hs : Sound h) (hb : h.berths[number]? = some b)
    (hopen : number ∉ h.dropped)
    (hother : (h.tree.find? b.listener.path).any b.made = false) :
    (h.drop number).tree = h.tree := by
  rw [drop_of_open hb hopen]
  exact Listener.cleanUp_of_not_owns ((hs.owns_eq (List.mem_of_getElem? hb)).trans hother)

/-- Whatever a listener did not make stays when it is dropped. -/
theorem Sound.drop_keeps (hs : Sound h) (hentry : h.tree.entryAt place = some e)
    (hother : ∀ b, h.berths[number]? = some b → b.made e = false) :
    (h.drop number).tree.entryAt place = some e := by
  have hcases := tree_drop_cases number h
  generalize (h.drop number).tree = tree at hcases
  cases hcases with
  | nothing => exact hentry
  | @one b gone _ hb hgone _ hinode =>
    have hne : place ≠ gone := by
      rintro rfl
      cases hentry.symm.trans hgone
      have hmade := (hs.made_iff (List.mem_of_getElem? hb) e).mpr hinode
      rw [hother b hb] at hmade
      cases hmade
    rw [FileTree.entryAt_remove_ne hne, hentry]

/-- Neither binding nor dropping a listener takes away anything but sockets. -/
theorem Sound.step_keeps (hs : Sound h) (hentry : h.tree.entryAt place = some e)
    (hkind : e.kind ≠ .socket) {act : Act} (hact : ∀ o, act ≠ .outside o) :
    (h.step act).tree.entryAt place = some e := by
  cases act with
  | bind path mode =>
    have hcases := bind_cases path mode h
    rw [Harbour.step]
    generalize h.bind path mode = outcome at hcases
    cases hcases with
    | refused => exact hentry
    | @made parent name _ hroom =>
      have hne : place ≠ name :: parent := by
        rintro rfl
        exact hkind (hroom e hentry)
      exact (FileTree.entryAt_withSocket_ne hne _ _).trans hentry
  | drop number =>
    refine hs.drop_keeps hentry fun b hb => Bool.eq_false_iff.mpr fun hmade => hkind ?_
    have hmem := List.mem_of_getElem? hb
    exact hs.sockets b hmem place e hentry ((hs.made_iff hmem e).mp hmade)
  | outside o => exact absurd rfl (hact o)

/-! ### What binding leaves -/

/-- A socket that was not there before, and that none of the listeners created. -/
structure IsNew (e : Entry) (h : Harbour) : Prop where
  socket : e.kind = .socket
  absent : ∀ place old, h.tree.entryAt place = some old → old.inode ≠ e.inode
  unclaimed : ∀ b ∈ h.berths, b.made e = false

theorem Sound.isNew (hs : Sound h) (mode : Nat) :
    IsNew ⟨.socket, h.tree.nextInode, mode, false⟩ h where
  socket := rfl
  absent place old hentry := Nat.ne_of_lt (hs.numbered place old hentry)
  unclaimed b hb := Bool.eq_false_iff.mpr fun hmade =>
    Nat.ne_of_gt (hs.given b hb) ((hs.made_iff hb _).mp hmade)

theorem bind_of_long (hlong : Listener.pathLimit ≤ path.utf8ByteSize) (mode : Nat) :
    h.bind path mode = (.error (.pathTooLong path path.utf8ByteSize Listener.pathLimit), h) := by
  rw [bind, Listener.bindOn, if_pos hlong]

/-- A file that is no socket is never removed for a listener. -/
theorem bind_of_other (hsize : path.utf8ByteSize < Listener.pathLimit)
    (hfind : h.tree.find? path = some e) (hkind : e.kind ≠ .socket) (mode : Nat) :
    h.bind path mode =
      (.error (.bind path (.described .alreadyExists "existing path is not a unix socket")),
        h) := by
  rw [bind, Listener.bindOn_of_other hsize hfind hkind]

theorem bind_of_room (hsize : path.utf8ByteSize < Listener.pathLimit)
    (hadmits : h.tree.Admits path place) (hroom : h.tree.HasRoom place) (mode : Nat) :
    h.bind path mode = (.ok ⟨path, h.tree.nextInode, []⟩, h.moor path place mode) := by
  obtain ⟨htarget, -, -, hfree⟩ := hadmits
  exact bind_of_made (Listener.bindOn_of_room hsize htarget hfree hroom mode) htarget hroom

/-- A bind that fails changes nothing. -/
theorem bind_refused {cause : SocketError} {after : Harbour}
    (hbind : h.bind path mode = (.error cause, after)) : after = h := by
  have hcases := bind_cases path mode h
  rw [hbind] at hcases
  cases hcases
  rfl

/-- What is done to the tree is what binding a listener does to it. -/
theorem listener_bind_eq (path : String) (mode : Nat) (h : Harbour) :
    Listener.bind path mode h.tree =
      (h.bind path mode).1.map (·, (h.bind path mode).2.tree) := by
  rw [Listener.bind_eq_bindOn, bind]
  rcases Listener.bindOn path mode h.tree with ⟨_ | _, _⟩ <;> rfl

/-! ### A path that others leave alone -/

/-- No listener is bound at the place, and the path goes on leading to what is there. -/
def Spares (path : String) (place : Place) (h : Harbour) : Act → Prop
  | .bind other mode => ∀ l, (h.bind other mode).1 = .ok l → ¬h.tree.Admits other place
  | .drop _ => True
  | .outside o =>
    (o.change h.tree).Admits path place ∧ (o.change h.tree).entryAt place = h.tree.entryAt place

/-- Nothing in the course of these acts touches the place. -/
def LeftAlone (path : String) (place : Place) : List Act → Harbour → Prop
  | [], _ => True
  | act :: acts, h => h.Spares path place act ∧ LeftAlone path place acts (h.step act)

/-- The socket of a listener is at its place until the listener is dropped. -/
structure Moored (number : Nat) (path : String) (place : Place) (e : Entry) (h : Harbour) :
    Prop where
  admits : h.tree.Admits path place
  berth : ∃ l, h.berths[number]? = some ⟨l, some e⟩ ∧ l.path = path
  entry : h.tree.entryAt place = if number ∈ h.dropped then none else some e

theorem moored_moor (hs : Sound h) (hadmits : h.tree.Admits path place)
    (hroom : h.tree.HasRoom place) (mode : Nat) :
    Moored h.berths.length path place ⟨.socket, h.tree.nextInode, mode % 0o10000, false⟩
      (h.moor path place mode) where
  admits := hadmits.of_directories
    (hroom.directories fun _ hne => FileTree.entryAt_withSocket_ne hne _ _) rfl
  berth := ⟨_, List.getElem?_concat_length, rfl⟩
  entry :=
    have hopen : h.berths.length ∉ h.dropped := fun hdropped =>
      Nat.lt_irrefl _ (hs.dropped _ hdropped)
    (FileTree.entryAt_withSocket_self place _ h.tree).trans (if_neg hopen).symm

theorem Moored.bind (hm : Moored number path place e h) {other : String}
    (hspared : h.Spares path place (.bind other mode)) :
    Moored number path place e (h.step (.bind other mode)) := by
  have hcases := bind_cases other mode h
  rw [Spares] at hspared
  rw [step]
  generalize h.bind other mode = outcome at hcases hspared
  cases hcases with
  | refused => exact hm
  | @made parent name htarget hroom =>
    have hne : place ≠ name :: parent := by
      rintro rfl
      -- The path leads into the same directory as the listener's.
      obtain ⟨-, hfound, hdirectory, hfree⟩ := hm.admits
      exact hspared _ rfl ⟨htarget, hfound, hdirectory, hfree⟩
    obtain ⟨l, hl, hpath⟩ := hm.berth
    refine ⟨hm.admits.of_directories
      (hroom.directories fun _ h => FileTree.entryAt_withSocket_ne h _ _) rfl,
      ⟨l, ?_, hpath⟩, ?_⟩
    · exact (List.getElem?_append_left (List.getElem?_eq_some_iff.mp hl).1).trans hl
    · exact (FileTree.entryAt_withSocket_ne hne _ _).trans hm.entry

/-- Dropping a listener takes no directory away. -/
theorem admits_drop (hadmits : h.tree.Admits path place) (number : Nat) :
    (h.drop number).tree.Admits path place := by
  have hcases := tree_drop_cases number h
  generalize (h.drop number).tree = tree at hcases
  cases hcases with
  | nothing => exact hadmits
  | @one _ gone _ _ hgone hsocket _ =>
    have hroom : h.tree.HasRoom gone := fun e he => by
      cases hgone.symm.trans he
      exact hsocket
    exact hadmits.of_directories
      (hroom.directories fun _ hne => FileTree.entryAt_remove_ne hne _) rfl

theorem absent_drop (hnone : h.tree.entryAt place = none) (number : Nat) :
    (h.drop number).tree.entryAt place = none := by
  have hcases := tree_drop_cases number h
  generalize (h.drop number).tree = tree at hcases
  cases hcases with
  | nothing => exact hnone
  | @one _ gone _ _ _ _ _ =>
    by_cases hne : place = gone
    · rw [hne, FileTree.entryAt_remove_self]
    · rw [FileTree.entryAt_remove_ne hne, hnone]

theorem dropped_step {act : Act} (hnumber : number < h.berths.length) :
    number ∈ (h.step act).dropped ↔ number ∈ h.dropped ∨ act = .drop number := by
  cases act with
  | bind path mode =>
    have hcases := bind_cases path mode h
    rw [step]
    generalize h.bind path mode = outcome at hcases
    cases hcases <;> simp [moor]
  | drop other =>
    have hcases := drop_cases other h
    rw [step]
    generalize h.drop other = after at hcases
    cases hcases with
    | nothing hnone =>
      rw [Act.drop.injEq]
      refine (or_iff_left_of_imp ?_).symm
      rintro rfl
      refine hnone.resolve_right fun hmissing => ?_
      rw [List.getElem?_eq_none_iff] at hmissing
      omega
    | cleaned =>
      rw [Act.drop.injEq, List.mem_cons, or_comm]
      exact or_congr_right eq_comm
  | outside o => simp [step]

theorem Moored.lt (hm : Moored number path place e h) : number < h.berths.length := by
  obtain ⟨l, hl, -⟩ := hm.berth
  exact (List.getElem?_eq_some_iff.mp hl).1

theorem Moored.drop_self (hs : Sound h) (hm : Moored number path place e h) :
    Moored number path place e (h.drop number) := by
  by_cases hdropped : number ∈ h.dropped
  · rw [Harbour.drop, if_pos hdropped]
    exact hm
  · obtain ⟨l, hl, rfl⟩ := hm.berth
    have hmade : (h.tree.find? l.path).any (Berth.made ⟨l, some e⟩) = true := by
      rw [hm.admits.find?_eq, hm.entry, if_neg hdropped]
      exact beq_self_eq_true e.inode
    have htree := hs.tree_drop_of_made hl hdropped hmade hm.admits
    refine ⟨admits_drop hm.admits number, ⟨l, (berths_drop number h).symm ▸ hl, rfl⟩, ?_⟩
    rw [htree, FileTree.entryAt_remove_self, drop_of_open hl hdropped]
    exact (if_pos List.mem_cons_self).symm

theorem Moored.drop_other (hs : Sound h) (hm : Moored number path place e h) {other : Nat}
    (hne : other ≠ number) : Moored number path place e (h.drop other) := by
  obtain ⟨l, hl, hpath⟩ := hm.berth
  refine ⟨admits_drop hm.admits other, ⟨l, (berths_drop other h).symm ▸ hl, hpath⟩, ?_⟩
  have hdropped : number ∈ (h.drop other).dropped ↔ number ∈ h.dropped := by
    have hstep : number ∈ (h.step (.drop other)).dropped ↔ _ := dropped_step hm.lt
    refine hstep.trans (or_iff_left ?_)
    rw [Act.drop.injEq]
    exact hne
  simp only [hdropped]
  have hentry := hm.entry
  split at hentry
  · rename_i hgone
    rw [if_pos hgone]
    exact absent_drop hentry other
  · rename_i hopen
    rw [if_neg hopen]
    refine hs.drop_keeps hentry fun b hb => Bool.eq_false_iff.mpr fun hmade => hne ?_
    exact hs.eq_of_made hb hl hmade (beq_self_eq_true e.inode)

/-- A socket stays where its listener put it, until the listener is dropped. -/
theorem Moored.step (hs : Sound h) (hm : Moored number path place e h) {act : Act}
    (hspared : h.Spares path place act) : Moored number path place e (h.step act) := by
  cases act with
  | bind other mode => exact hm.bind hspared
  | drop other =>
    by_cases hsame : other = number
    · subst hsame
      exact hm.drop_self hs
    · exact hm.drop_other hs hsame
  | outside o => exact ⟨hspared.1, hm.berth, hspared.2.trans hm.entry⟩

/-- A socket whose place is left alone stays until its listener is dropped. -/
theorem Moored.run (hs : Sound h) (hm : Moored number path place e h) {acts : List Act}
    (halone : LeftAlone path place acts h) :
    Moored number path place e (h.run acts) ∧
      (number ∈ (h.run acts).dropped ↔ number ∈ h.dropped ∨ .drop number ∈ acts) := by
  induction acts generalizing h with
  | nil => exact ⟨hm, by simp [Harbour.run]⟩
  | cons act acts ih =>
    obtain ⟨hmoored, hdropped⟩ := ih (hs.step act) (hm.step hs halone.1) halone.2
    refine ⟨hmoored, hdropped.trans ?_⟩
    rw [dropped_step hm.lt, List.mem_cons, or_assoc, @eq_comm _ act]

theorem Moored.find?_eq (hm : Moored number path place e h) :
    h.tree.find? path = if number ∈ h.dropped then none else some e :=
  hm.admits.find?_eq.trans hm.entry

theorem Sound.moored_bind (hs : Sound h) {l : Listener} {after : Harbour}
    (hbind : h.bind path mode = (.ok l, after)) (hadmits : h.tree.Admits path place) :
    h.berths.length ∉ after.dropped ∧ ∃ e, Moored h.berths.length path place e after := by
  have hcases := bind_cases path mode h
  rw [hbind] at hcases
  cases hcases with
  | @made parent name htarget hroom =>
    obtain rfl : place = name :: parent := by
      obtain ⟨htarget', -, -, -⟩ := hadmits
      cases htarget'.symm.trans htarget
      rfl
    exact ⟨fun hdropped => Nat.lt_irrefl _ (hs.dropped _ hdropped),
      _, moored_moor hs hadmits hroom mode⟩

/-- Whatever listeners and others did before, a listener that is bound fails and changes nothing, or
leaves a new socket at its path and nothing else; and when it is dropped it takes away this socket,
if that is what is still there, and nothing else. -/
theorem listeners_remove_only_their_own (entries : List (Place × Entry))
    (workingDirectory : Place) (acts : List Act) :
    let h := (start entries workingDirectory).run acts
    -- Binding a listener.
    (∀ path mode,
      Listener.bind path mode h.tree = (h.bind path mode).1.map (·, (h.bind path mode).2.tree) ∧
      (∀ cause after, h.bind path mode = (.error cause, after) → after = h) ∧
      (108 ≤ path.utf8ByteSize →
        h.bind path mode = (.error (.pathTooLong path path.utf8ByteSize 108), h)) ∧
      (path.utf8ByteSize < 108 →
        (∀ e, h.tree.find? path = some e → e.kind ≠ .socket →
          h.bind path mode =
            (.error (.bind path (.described .alreadyExists "existing path is not a unix socket")),
              h)) ∧
        ∀ place, h.tree.Admits path place → h.tree.HasRoom place → ∃ l e tree,
          h.bind path mode =
            (.ok l, { h with tree := tree, berths := h.berths ++ [⟨l, some e⟩] }) ∧
          l.path = path ∧ h.IsNew e ∧ tree.entryAt place = some e ∧
          ∀ other, other ≠ place → tree.entryAt other = h.tree.entryAt other)) ∧
    -- Dropping a listener that was not dropped yet.
    (∀ number b, h.berths[number]? = some b → number ∉ h.dropped →
      ((h.tree.find? b.listener.path).any b.made = true →
        ∀ place, h.tree.Admits b.listener.path place →
          (h.drop number).tree = h.tree.remove place) ∧
      ((h.tree.find? b.listener.path).any b.made = false → (h.drop number).tree = h.tree)) ∧
    -- What is no socket stays.
    (∀ act, (∀ o, act ≠ .outside o) → ∀ place e, h.tree.entryAt place = some e →
      e.kind ≠ .socket → (h.step act).tree.entryAt place = some e) ∧
    -- What another listener created stays.
    (∀ number other b, h.berths[other]? = some b → other ≠ number →
      ∀ place e, h.tree.entryAt place = some e → b.made e = true →
        (h.drop number).tree.entryAt place = some e) ∧
    -- The socket of the listener that was bound last is there until that listener is dropped.
    ∀ path mode l after, h.bind path mode = (.ok l, after) →
      ∀ place, h.tree.Admits path place → ∀ later, LeftAlone path place later after →
        (.drop h.berths.length ∈ later → (after.run later).tree.find? path = none) ∧
        (.drop h.berths.length ∉ later →
          (after.run later).tree.find? path = after.tree.find? path) := by
  intro h
  have hs : Sound h := (sound_start entries workingDirectory).run acts
  refine ⟨?_, ?_, ?_, ?_, ?_⟩
  · intro path mode
    refine ⟨listener_bind_eq path mode h, fun _ _ => bind_refused,
      fun hlong => bind_of_long hlong mode, fun hsize => ⟨?_, ?_⟩⟩
    · intro e hfind hkind
      exact bind_of_other hsize hfind hkind mode
    · intro place hadmits hroom
      exact ⟨_, _, _, bind_of_room hsize hadmits hroom mode, rfl, hs.isNew _,
        FileTree.entryAt_withSocket_self place _ h.tree,
        fun other hne => FileTree.entryAt_withSocket_ne hne _ h.tree⟩
  · intro number b hb hopen
    refine ⟨?_, hs.tree_drop_of_other hb hopen⟩
    intro hmade place hadmits
    exact hs.tree_drop_of_made hb hopen hmade hadmits
  · intro act hact place e hentry hkind
    exact hs.step_keeps hentry hkind hact
  · intro number other b hb hne place e hentry hmade
    exact hs.drop_keeps hentry fun c hc => Bool.eq_false_iff.mpr fun hclaimed =>
      hne (hs.eq_of_made hb hc hmade hclaimed)
  · intro path mode l after hbind place hadmits later halone
    obtain ⟨hopen, e, hm⟩ := hs.moored_bind hbind hadmits
    have hafter : Sound after := by
      have hstep := hs.step (.bind path mode)
      rwa [step, hbind] at hstep
    obtain ⟨hlater, hdropped⟩ := hm.run hafter halone
    rw [or_iff_right hopen] at hdropped
    rw [hlater.find?_eq, hm.find?_eq, if_neg hopen]
    exact ⟨fun hdrop => if_pos (hdropped.mpr hdrop),
      fun hkept => if_neg (hkept ∘ hdropped.mp)⟩

/-- Two listeners at one path: the older one leaves the younger one's socket alone. -/
example :
    let h := (start [([], ⟨.directory, 0, 0o755, false⟩)] []).run
      [.bind "/s" 0o600, .bind "/s" 0o600, .drop 0]
    (h.tree.find? "/s").map (·.inode) = some 3 ∧ (h.drop 1).tree.find? "/s" = none := by
  decide +kernel

/-- A file that others put in place of the socket stays. -/
example :
    let h := (start [([], ⟨.directory, 0, 0o755, false⟩)] []).run
      [.bind "/s" 0o600, .outside (.delete ["s"]), .outside (.put ["s"] .file 0o644), .drop 0]
    (h.tree.find? "/s").map (·.kind) = some .file := by
  decide +kernel

end Harbour

end Framecast
