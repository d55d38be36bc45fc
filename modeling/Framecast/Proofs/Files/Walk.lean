import Framecast.Files.Tree

/-!
# Following paths

A path is followed through directories that exist. So it leads to the same place as long as they
stay, whatever else is added or removed (`target_of_directories`), and a file that is made under a
name and unlinked again leaves the tree as it was (`remove_add`). A name in a directory that exists
is found there (`target_join`).
-/

namespace Framecast

namespace Path

/-! ### Steps -/

/-- A slash ends a step of a path. -/
theorem stepsFrom_slash (before rest : List Char) (done : List String) (step : List Char) :
    stepsFrom (before ++ '/' :: rest) done step =
      stepsFrom rest (stepsFrom before done step) [] := by
  induction before generalizing done step with
  | nil =>
    cases step with
    | nil => rfl
    | cons c step => rfl
  | cons c before ih =>
    rw [List.cons_append, stepsFrom, stepsFrom]
    simp only [ih, apply_ite (stepsFrom rest · [])]

theorem stepsFrom_plain {name : List Char} (hname : '/' ∉ name) (done : List String)
    (step : List Char) (h : step ≠ [] ∨ name ≠ []) :
    stepsFrom name done step = String.ofList (step.reverse ++ name) :: done := by
  induction name generalizing step with
  | nil =>
    have hstep : ¬step.isEmpty = true := by simpa using h
    rw [stepsFrom, if_neg hstep, List.append_nil]
  | cons c name ih =>
    obtain ⟨hc, hrest⟩ := not_or.mp (mt List.mem_cons.mpr hname)
    rw [stepsFrom, if_pos (Ne.symm hc), ih hrest (c :: step) (.inl (List.cons_ne_nil c step)),
      List.reverse_cons, List.append_assoc, List.singleton_append]

/-- The last step of a path holds everything from its last dash on, if no slash comes behind. -/
theorem stepsFrom_dash (before : List Char) {behind : List Char} (hbehind : '/' ∉ behind)
    (done : List String) (step : List Char) : ∃ stem earlier,
      stepsFrom (before ++ '-' :: behind) done step =
        String.ofList (stem ++ '-' :: behind) :: earlier := by
  induction before generalizing done step with
  | nil =>
    have hplain : '/' ∉ '-' :: behind := by
      rw [List.mem_cons, not_or]
      exact ⟨by decide, hbehind⟩
    exact ⟨_, _, stepsFrom_plain hplain done step (.inr (List.cons_ne_nil _ _))⟩
  | cons c before ih =>
    rw [List.cons_append, stepsFrom]
    split
    · exact ih _ _
    · split
      · exact ih _ _
      · exact ih _ _

/-- A path ends with the name that it was joined from. -/
theorem toList_join (directory name : String) :
    ∃ before, (join directory name).toList = before ++ name.toList := by
  unfold join
  split
  · exact ⟨[], rfl⟩
  · split
    · exact ⟨_, String.toList_append⟩
    · exact ⟨_, String.toList_append⟩

section

variable {directory name : String}

theorem isAbsolute_append (hdirectory : directory ≠ "") (rest : String) :
    isAbsolute (directory ++ rest) = isAbsolute directory := by
  have hchars : directory.toList ≠ [] := by simpa using hdirectory
  obtain ⟨c, cs, hcs⟩ := List.exists_cons_of_ne_nil hchars
  rw [isAbsolute, isAbsolute, String.toList_append, hcs]
  rfl

/-- A plain name is joined to its directory with one slash between. -/
theorem join_plain (hdirectory : directory ≠ "") (hplain : '/' ∉ name.toList) :
    join directory name =
      if endsWithSlash directory then directory ++ name else directory ++ "/" ++ name := by
  have hrelative : isAbsolute name = false := by
    rw [isAbsolute, decide_eq_false_iff_not]
    exact fun hhead => hplain (List.mem_of_mem_head? (Option.mem_def.mpr hhead))
  exact if_neg (by simp [hrelative, hdirectory])

theorem isAbsolute_join (hdirectory : directory ≠ "") (hplain : '/' ∉ name.toList) :
    isAbsolute (join directory name) = isAbsolute directory := by
  rw [join_plain hdirectory hplain]
  split
  · exact isAbsolute_append hdirectory name
  · rw [String.append_assoc, isAbsolute_append hdirectory]

theorem hasNul_join (hdirectory : directory ≠ "") (hplain : '/' ∉ name.toList)
    (hclean : hasNul directory = false) (hname : hasNul name = false) :
    hasNul (join directory name) = false := by
  unfold hasNul at hclean hname ⊢
  rw [join_plain hdirectory hplain]
  split
  · rw [String.toList_append, List.contains_append, hclean, hname]
    rfl
  · rw [String.toList_append, String.toList_append, List.contains_append, List.contains_append,
      hclean, hname]
    rfl

/-- A path that ends with a plain name has no slash behind it. -/
theorem endsWithSlash_of_plain {path : String} {before behind : List Char}
    (hpath : path.toList = before ++ behind) (hbehind : behind ≠ []) (hplain : '/' ∉ behind) :
    endsWithSlash path = false := by
  rw [endsWithSlash, hpath, List.getLast?_append, List.getLast?_eq_some_getLast hbehind,
    Option.some_or, decide_eq_false_iff_not, Option.some.injEq]
  exact fun hlast => hplain (hlast ▸ List.getLast_mem hbehind)

/-- A plain name is one step behind those of its directory. -/
theorem steps_join (hdirectory : directory ≠ "") (hname : name ≠ "")
    (hplain : '/' ∉ name.toList) : steps (join directory name) = name :: steps directory := by
  have hchars : name.toList ≠ [] := by simpa using hname
  have hlast (done : List String) : stepsFrom name.toList done [] = name :: done := by
    rw [stepsFrom_plain hplain done [] (.inr hchars), List.reverse_nil, List.nil_append,
      String.ofList_toList]
  rw [join_plain hdirectory hplain]
  split
  · rename_i hslash
    obtain ⟨before, hbefore⟩ : ∃ before, directory.toList = before ++ ['/'] := by
      rw [endsWithSlash, decide_eq_true_iff] at hslash
      exact List.getLast?_eq_some_iff.mp hslash
    rw [steps, steps, String.toList_append, hbefore, List.append_assoc, List.singleton_append,
      stepsFrom_slash, stepsFrom_slash, hlast]
    rfl
  · have hjoined : (directory ++ "/" ++ name).toList = directory.toList ++ '/' :: name.toList := by
      simp [String.toList_append]
    rw [steps, hjoined, stepsFrom_slash, hlast]
    rfl

end

end Path

namespace FileTree

variable {t t' : FileTree} {path : String}

/-! ### The walk and its end -/

/-- Where a path starts. -/
def start (path : String) (t : FileTree) : Place :=
  if Path.isAbsolute path then [] else t.workingDirectory

/-- What the last step of a path comes to, once all others were followed. -/
def ending (path last : String) (place : Place) : Except IoError Target :=
  if last = "." then .ok (.unnamed place)
  else if last = ".." then .ok (.unnamed place.tail)
  else if Path.stepLimit < last.utf8ByteSize then .error .nameTooLong
  else .ok (.named place last (Path.endsWithSlash path))

/-- Why a path is not followed at all, if so. -/
def unfit? (path : String) : Option IoError :=
  if Path.hasNul path then
    some (.described .invalidInput "file name contained an unexpected NUL byte")
  else if path.isEmpty then some .notFound
  else if Path.limit ≤ path.utf8ByteSize then some .nameTooLong
  else none

/-- Follow the steps of a path to its end. -/
def follow (path : String) (t : FileTree) : Except IoError Target :=
  match Path.steps path with
  | [] => .ok (.unnamed (t.start path))
  | last :: before => (before.reverse.foldlM t.enter (t.start path)).bind (ending path last)

theorem target_eq (path : String) (t : FileTree) :
    t.target path =
      match unfit? path with
      | some e => .error e
      | none => t.follow path := by
  unfold target unfit?
  by_cases hnul : Path.hasNul path = true
  · rw [if_pos hnul, if_pos hnul]
  by_cases hempty : path.isEmpty = true
  · rw [if_neg hnul, if_pos hempty, if_neg hnul, if_pos hempty]
  by_cases hlong : Path.limit ≤ path.utf8ByteSize
  · rw [if_neg hnul, if_neg hempty, if_pos hlong, if_neg hnul, if_neg hempty, if_pos hlong]
  rw [if_neg hnul, if_neg hempty, if_neg hlong, if_neg hnul, if_neg hempty, if_neg hlong]
  dsimp only
  rw [follow]
  cases Path.steps path with
  | nil => rfl
  | cons last before =>
    dsimp only
    rw [start]
    cases before.reverse.foldlM t.enter (if Path.isAbsolute path then [] else t.workingDirectory)
      with
    | error e => rfl
    | ok place => rfl

/-! ### What keeps a path from being followed -/

/-- A path that is refused as a text is not refused because something is there. -/
theorem unfit?_error {e : IoError} (h : unfit? path = some e) : e.kind ≠ .alreadyExists := by
  have hcauses : e.kind = .invalidInput ∨ e = .notFound ∨ e = .nameTooLong := by
    unfold unfit? at h
    grind [IoError.kind]
  rcases hcauses with hkind | rfl | rfl
  · rw [hkind]
    decide
  · decide
  · decide

theorem enter_error {place : Place} {step : String} {e : IoError}
    (h : t.enter place step = .error e) : e.kind ≠ .alreadyExists := by
  have hcauses : e = .nameTooLong ∨ e = .notFound ∨ e = .notADirectory := by
    unfold enter at h
    grind
  rcases hcauses with rfl | rfl | rfl <;> decide

/-- A path that cannot be followed does not end because something is there. -/
theorem walk_error {steps : List String} {place : Place} {e : IoError}
    (h : steps.foldlM t.enter place = .error e) : e.kind ≠ .alreadyExists := by
  induction steps generalizing place with
  | nil => cases h
  | cons step steps ih =>
    rw [List.foldlM_cons] at h
    cases hstep : t.enter place step with
    | error e' =>
      rw [hstep] at h
      cases h
      exact enter_error hstep
    | ok next =>
      rw [hstep] at h
      exact ih h

theorem ending_error {last : String} {place : Place} {e : IoError}
    (h : ending path last place = .error e) : e.kind ≠ .alreadyExists := by
  have hcause : e = .nameTooLong := by
    unfold ending at h
    grind
  rw [hcause]
  decide

/-- All that following a path can come to. -/
inductive Followed (path : String) (t : FileTree) : Except IoError Target → Prop
  | unfit {e : IoError} (h : unfit? path = some e) : Followed path t (.error e)
  | atOnce (hfit : unfit? path = none) (hsteps : Path.steps path = []) :
      Followed path t (.ok (.unnamed (t.start path)))
  | stuck {last : String} {before : List String} {e : IoError}
      (hfit : unfit? path = none) (hsteps : Path.steps path = last :: before)
      (hwalk : before.reverse.foldlM t.enter (t.start path) = .error e) :
      Followed path t (.error e)
  | through {last : String} {before : List String} {place : Place}
      {result : Except IoError Target}
      (hfit : unfit? path = none) (hsteps : Path.steps path = last :: before)
      (hwalk : before.reverse.foldlM t.enter (t.start path) = .ok place)
      (hending : ending path last place = result) : Followed path t result

/-- A path is followed in one way. -/
theorem target_eq_iff {result : Except IoError Target} :
    t.target path = result ↔ Followed path t result := by
  rw [target_eq]
  constructor
  · rintro rfl
    cases hunfit : unfit? path with
    | some cause => exact .unfit hunfit
    | none =>
      dsimp only [follow]
      cases hsteps : Path.steps path with
      | nil => exact .atOnce hunfit hsteps
      | cons last before =>
        dsimp only
        cases hwalk : before.reverse.foldlM t.enter (t.start path) with
        | error cause => exact .stuck hunfit hsteps hwalk
        | ok place => exact .through hunfit hsteps hwalk rfl
  · intro h
    cases h with
    | unfit hunfit => rw [hunfit]
    | atOnce hfit hsteps =>
      rw [hfit]
      dsimp only [follow]
      rw [hsteps]
    | stuck hfit hsteps hwalk =>
      rw [hfit]
      dsimp only [follow]
      rw [hsteps]
      dsimp only
      rw [hwalk]
      rfl
    | through hfit hsteps hwalk hending =>
      rw [hfit]
      dsimp only [follow]
      rw [hsteps]
      dsimp only
      rw [hwalk]
      exact hending

/-- Whatever keeps a path from being followed, it is not that something exists. -/
theorem target_error {e : IoError} (h : t.target path = .error e) : e.kind ≠ .alreadyExists := by
  cases target_eq_iff.mp h with
  | unfit hunfit => exact unfit?_error hunfit
  | stuck _ _ hwalk => exact walk_error hwalk
  | through _ _ _ hending => exact ending_error hending

/-! ### Trees with the same directories -/

section

variable (hmore : ∀ place e, e.kind = .directory → t.entryAt place = some e →
  t'.entryAt place = some e)

include hmore

/-- A step leads the same way where all directories are as before. -/
theorem enter_of_directories {place next : Place} {step : String}
    (h : t.enter place step = .ok next) : t'.enter place step = .ok next := by
  unfold enter at h ⊢
  grind

/-- A path leads the same way where all directories are as before. -/
theorem walk_of_directories {steps : List String} {place last : Place}
    (h : steps.foldlM t.enter place = .ok last) : steps.foldlM t'.enter place = .ok last := by
  induction steps generalizing place with
  | nil => exact h
  | cons step steps ih =>
    rw [List.foldlM_cons] at h ⊢
    cases hstep : t.enter place step with
    | error e =>
      rw [hstep] at h
      cases h
    | ok next =>
      rw [hstep] at h
      rw [enter_of_directories hmore hstep]
      exact ih h

/-- A path that is followed leads to the same place in a tree that has all the directories. -/
theorem target_of_directories (hstart : t'.workingDirectory = t.workingDirectory) {found : Target}
    (h : t.target path = .ok found) : t'.target path = .ok found := by
  have hsame : t'.start path = t.start path := by rw [start, start, hstart]
  rw [target_eq_iff] at h ⊢
  cases h with
  | atOnce hfit hsteps =>
    rw [← hsame]
    exact .atOnce hfit hsteps
  | through hfit hsteps hwalk hending =>
    rw [← hsame] at hwalk
    exact .through hfit hsteps (walk_of_directories hmore hwalk) hending

end

theorem remove_of_absent {place : Place} (h : t.entryAt place = none) : t.remove place = t := by
  have hothers : t.entries.filter (·.1 != place) = t.entries := by
    rw [List.filter_eq_self]
    intro e he
    have hne := List.lookup_eq_none_iff.mp h e he
    rw [bne_comm] at hne
    exact hne
  rw [remove, hothers]

/-- A file that is added under a free place and removed again leaves the entries as they were. -/
theorem remove_add {place : Place} (hfree : t.entryAt place = none) (kind : EntryKind)
    (mode : Nat) :
    (t.add place kind mode).2.remove place = { t with nextInode := t.nextInode + 1 } := by
  have hothers : t.entries.filter (·.1 != place) = t.entries :=
    congrArg entries (remove_of_absent hfree)
  rw [add, remove]
  dsimp only
  rw [List.filter_cons_of_neg (by simp), hothers]

theorem lookup_of_named {name : String} {parent : Place}
    (h : t.target path = .ok (.named parent name false)) :
    t.lookup path = .ok (t.entryAt (name :: parent)) := by
  rw [lookup, h]
  dsimp only
  cases t.entryAt (name :: parent) with
  | none => rfl
  | some e => rfl

/-- A path finds what is under its last name. -/
theorem find?_of_named {name : String} {parent : Place}
    (h : t.target path = .ok (.named parent name false)) :
    t.find? path = t.entryAt (name :: parent) := by
  rw [find?, lookup_of_named h]

theorem find?_of_error {cause : IoError} (h : t.target path = .error cause) :
    t.find? path = none := by
  rw [find?, lookup, h]

/-! ### Directories -/

theorem enter_of_unnamed {last : String} {place next : Place}
    (h : ending path last place = .ok (.unnamed next)) : t.enter place last = .ok next := by
  unfold ending at h
  unfold enter
  grind

theorem enter_of_named {last name : String} {place parent : Place} {slash : Bool} {d : Entry}
    (h : ending path last place = .ok (.named parent name slash))
    (hentry : t.entryAt (name :: parent) = some d) (hd : d.kind = .directory) :
    t.enter place last = .ok (name :: parent) := by
  unfold ending at h
  unfold enter
  grind

/-- A path that finds something leads to its place. -/
theorem lookup_some {d : Entry} (h : t.lookup path = .ok (some d)) :
    (∃ place, t.target path = .ok (.unnamed place) ∧ t.entryAt place = some d) ∨
      ∃ parent name slash, t.target path = .ok (.named parent name slash) ∧
        t.entryAt (name :: parent) = some d := by
  unfold lookup at h
  grind

theorem lookup_of_find? {e : Entry} (h : t.find? path = some e) :
    t.lookup path = .ok (some e) := by
  unfold find? at h
  grind

/-- What a path finds stands somewhere. -/
theorem entryAt_of_find? {e : Entry} (h : t.find? path = some e) :
    ∃ place, t.entryAt place = some e := by
  rcases lookup_some (lookup_of_find? h) with ⟨place, -, hentry⟩ | ⟨parent, name, -, -, hentry⟩
  · exact ⟨place, hentry⟩
  · exact ⟨name :: parent, hentry⟩

/-- A path that leads to a directory can be followed as a whole. -/
theorem walk_of_directory {d : Entry} (h : t.lookup path = .ok (some d))
    (hd : d.kind = .directory) : unfit? path = none ∧ ∃ place,
      (Path.steps path).reverse.foldlM t.enter (t.start path) = .ok place ∧
        t.entryAt place = some d := by
  have hone (last : String) (place : Place) :
      [last].foldlM t.enter place = t.enter place last := by
    rw [List.foldlM_cons]
    exact bind_pure _
  rcases lookup_some h with ⟨place, htarget, hentry⟩ | ⟨parent, name, slash, htarget, hentry⟩
  · cases target_eq_iff.mp htarget with
    | atOnce hfit hsteps =>
      rw [hsteps]
      exact ⟨hfit, _, rfl, hentry⟩
    | through hfit hsteps hwalk hending =>
      refine ⟨hfit, place, ?_, hentry⟩
      rw [hsteps, List.reverse_cons, List.foldlM_append, hwalk]
      exact (hone _ _).trans (enter_of_unnamed hending)
  · cases target_eq_iff.mp htarget with
    | through hfit hsteps hwalk hending =>
      refine ⟨hfit, name :: parent, ?_, hentry⟩
      rw [hsteps, List.reverse_cons, List.foldlM_append, hwalk]
      exact (hone _ _).trans (enter_of_named hending hentry hd)

/-- A name that can be one is followed into its directory. -/
theorem target_join {directory name : String} {d : Entry}
    (hlookup : t.lookup directory = .ok (some d)) (hd : d.kind = .directory)
    (hname : name ∉ ["", ".", ".."]) (hplain : '/' ∉ name.toList)
    (hclean : Path.hasNul name = false) (hstep : name.utf8ByteSize ≤ Path.stepLimit)
    (hpath : (Path.join directory name).utf8ByteSize < Path.limit) :
    ∃ place, t.target (Path.join directory name) = .ok (.named place name false) ∧
      t.entryAt place = some d := by
  obtain ⟨hfit, place, hwalk, hentry⟩ := walk_of_directory hlookup hd
  simp only [List.mem_cons, List.not_mem_nil, or_false, not_or] at hname
  obtain ⟨hempty, hdot, hdots⟩ := hname
  have hdirectory : directory ≠ "" := by
    rintro rfl
    exact absurd hfit (by decide)
  have hnul : Path.hasNul directory = false := by
    unfold unfit? at hfit
    grind
  have hchars : name.toList ≠ [] := by simpa using hempty
  obtain ⟨before, hbefore⟩ := Path.toList_join directory name
  have hfollowed : (Path.steps directory).reverse.foldlM t.enter
      (t.start (Path.join directory name)) = .ok place := by
    rw [start, Path.isAbsolute_join hdirectory hplain]
    exact hwalk
  refine ⟨place, target_eq_iff.mpr (.through ?_ (Path.steps_join hdirectory hempty hplain)
    hfollowed ?_), hentry⟩
  · have hsome : (Path.join directory name).isEmpty = false := by
      rw [String.isEmpty_eq_false_iff, ne_eq, ← String.toList_eq_nil_iff, hbefore]
      exact List.append_ne_nil_of_right_ne_nil before hchars
    rw [unfit?, Path.hasNul_join hdirectory hplain hnul hclean, hsome, if_neg Bool.false_ne_true,
      if_neg Bool.false_ne_true, if_neg (Nat.not_le_of_lt hpath)]
  · rw [ending, if_neg hdot, if_neg hdots, if_neg (Nat.not_lt_of_le hstep),
      Path.endsWithSlash_of_plain hbefore hchars hplain]

end FileTree

end Framecast
