import Framecast.Proofs.Files.Walk
import Framecast.Proofs.Memory.Allocation

/-!
# Names for backing files are drawn once

A path ends with the number that was drawn for it, so that it tells the number (`Numbered.unique`)
and names something in a directory (`Numbered.target`). One attempt therefore comes to one of three
things: something is there already (`claim_of_taken`), no file can be made there
(`claim_of_refused`), or one was made and is gone again (`claim_of_free`). `creation_createUnlinked`
says what the attempts come to together, and `attempts` which they are.
-/

namespace Framecast.Arena

namespace NameSpace

/-! ### Numbered paths -/

/-- The path ends with a dash and the number. -/
def Numbered (number : Nat) (path : String) : Prop :=
  ∃ before, path.toList = before ++ '-' :: Nat.toDigits 10 number

theorem not_mem_digits {c : Char} (h : c.isDigit = false) (number : Nat) :
    c ∉ Nat.toDigits 10 number := by
  intro hmem
  rw [Nat.isDigit_of_mem_toDigits (by decide) (by decide) hmem] at h
  cases h

/-- A path has one number at its end: the digits behind the last dash. -/
theorem Numbered.unique {m n : Nat} {path : String} (hm : Numbered m path)
    (hn : Numbered n path) : m = n := by
  have hbehind {number : Nat} (h : Numbered number path) :
      path.toList.reverse.takeWhile (· ≠ '-') = (Nat.toDigits 10 number).reverse := by
    obtain ⟨before, hbefore⟩ := h
    have hdigits : ∀ c ∈ (Nat.toDigits 10 number).reverse, decide (c ≠ '-') = true := by
      intro c hc
      rw [List.mem_reverse] at hc
      exact decide_eq_true fun hdash => not_mem_digits (by decide) number (hdash ▸ hc)
    rw [hbefore, List.reverse_append, List.reverse_cons, List.append_assoc,
      List.takeWhile_append_of_pos hdigits, List.singleton_append,
      List.takeWhile_cons_of_neg (by decide), List.append_nil]
  have hsame : Nat.toDigits 10 m = Nat.toDigits 10 n :=
    List.reverse_inj.mp ((hbehind hm).symm.trans (hbehind hn))
  calc
    m = Nat.ofDigitChars 10 (Nat.toDigits 10 m) 0 := Nat.ofDigitChars_ten_toDigits.symm
    _ = Nat.ofDigitChars 10 (Nat.toDigits 10 n) 0 := by rw [hsame]
    _ = n := Nat.ofDigitChars_ten_toDigits

theorem not_dots_of_dash {step : String} (h : '-' ∈ step.toList) : step ∉ ["", ".", ".."] := by
  intro hdots
  simp only [List.mem_cons, List.not_mem_nil, or_false] at hdots
  rcases hdots with rfl | rfl | rfl <;> exact absurd h (by decide)

/-- A path that ends with a number names something in a directory, and asks for no directory. -/
theorem Numbered.target {number : Nat} {path : String} (h : Numbered number path) {t : FileTree}
    {found : Target} (hfound : t.target path = .ok found) :
    ∃ parent name, found = .named parent name false := by
  obtain ⟨before, hbefore⟩ := h
  have hplain : '/' ∉ Nat.toDigits 10 number := not_mem_digits (by decide) number
  obtain ⟨stem, earlier, hsteps⟩ := Path.stepsFrom_dash before hplain [] []
  rw [← hbefore] at hsteps
  have hslash : Path.endsWithSlash path = false := by
    refine Path.endsWithSlash_of_plain hbefore (List.cons_ne_nil _ _) ?_
    rw [List.mem_cons, not_or]
    exact ⟨by decide, hplain⟩
  cases FileTree.target_eq_iff.mp hfound with
  | atOnce _ hnone =>
    rw [Path.steps, hsteps] at hnone
    cases hnone
  | @through last _ place _ _ hlast _ hending =>
    rw [Path.steps, hsteps, List.cons.injEq] at hlast
    have hdash : '-' ∈ last.toList := by
      rw [← hlast.1, String.toList_ofList]
      exact List.mem_append_right _ List.mem_cons_self
    have hdots := not_dots_of_dash hdash
    simp only [List.mem_cons, List.not_mem_nil, or_false, not_or] at hdots
    rw [FileTree.ending, if_neg hdots.2.1, if_neg hdots.2.2, hslash] at hending
    split at hending
    · cases hending
    · cases hending
      exact ⟨_, _, rfl⟩

/-! ### One attempt -/

/-- Why no file can be made under a path, apart from what is there already. -/
def refusal? (path : String) (t : FileTree) : Option IoError :=
  match t.target path with
  | .error cause => some cause
  | .ok (.unnamed _) => none
  | .ok (.named parent _ _) => t.closedError? parent

theorem kind_refusal {path : String} {t : FileTree} {cause : IoError}
    (h : refusal? path t = some cause) : cause.kind ≠ .alreadyExists := by
  unfold refusal? at h
  split at h
  · rename_i htarget
    cases h
    exact FileTree.target_error htarget
  · cases h
  · have hcauses : cause = .notFound ∨ cause = .permissionDenied := by
      unfold FileTree.closedError? at h
      grind
    rcases hcauses with rfl | rfl <;> decide

/-- The tree after a file was made and removed again: only its inode is used up. -/
def past (t : FileTree) : FileTree :=
  { t with nextInode := t.nextInode + 1 }

/-- The file that was made is found under the same path and removed. -/
theorem passThrough_of_open {path name : String} {t : FileTree} {parent : Place}
    (htarget : t.target path = .ok (.named parent name false))
    (hfree : t.entryAt (name :: parent) = none) (hopen : t.closedError? parent = none) :
    passThrough path t = .ok (past t) := by
  have hcreate : t.create path .file 0o600 = .ok (t.add (name :: parent) .file 0o600) := by
    rw [FileTree.create, htarget]
    dsimp only
    rw [hfree, hopen]
    rfl
  have hstays : ((t.add (name :: parent) .file 0o600).2).closedError? parent = none := by
    rw [FileTree.closedError?, FileTree.entryAt_add_ne (List.cons_ne_self name parent).symm]
    exact hopen
  -- The path led to a free place, so that no step of it is the new file.
  have hmore (place : Place) (e : Entry) (_ : e.kind = .directory)
      (hentry : t.entryAt place = some e) :
      ((t.add (name :: parent) .file 0o600).2).entryAt place = some e := by
    have hother : place ≠ name :: parent := by
      rintro rfl
      rw [hfree] at hentry
      cases hentry
    rw [FileTree.entryAt_add_ne hother]
    exact hentry
  have hunlink : (t.add (name :: parent) .file 0o600).2.unlink path = .ok ((), past t) := by
    rw [FileTree.unlink, FileTree.target_of_directories hmore rfl htarget]
    dsimp only
    rw [FileTree.entryAt_add_self, hstays, FileTree.remove_add hfree]
    rfl
  rw [passThrough, hcreate]
  dsimp only
  rw [hunlink]
  rfl

section

variable {number : Nat} {path : String} {t : FileTree}

/-- A name that is taken is refused as taken. -/
theorem Numbered.passThrough_of_taken (h : Numbered number path) (htaken : (t.find? path).isSome) :
    passThrough path t = .error .alreadyExists := by
  cases htarget : t.target path with
  | error cause =>
    rw [FileTree.find?_of_error htarget] at htaken
    cases htaken
  | ok found =>
    obtain ⟨parent, name, rfl⟩ := h.target htarget
    rw [FileTree.find?_of_named htarget] at htaken
    rw [passThrough, FileTree.create, htarget]
    dsimp only
    rw [if_pos htaken]

/-- A name that cannot be used is refused for that reason. -/
theorem Numbered.passThrough_of_refused (h : Numbered number path)
    (hfree : ¬(t.find? path).isSome) {cause : IoError} (hcause : refusal? path t = some cause) :
    passThrough path t = .error cause := by
  unfold refusal? at hcause
  cases htarget : t.target path with
  | error e =>
    rw [htarget] at hcause
    cases hcause
    rw [passThrough, FileTree.create, htarget]
  | ok found =>
    obtain ⟨parent, name, rfl⟩ := h.target htarget
    rw [htarget] at hcause
    rw [FileTree.find?_of_named htarget] at hfree
    dsimp only at hcause
    rw [passThrough, FileTree.create, htarget]
    dsimp only
    rw [if_neg hfree, hcause]
    rfl

/-- A name that is free is used, and is gone again. -/
theorem Numbered.passThrough_of_free (h : Numbered number path)
    (hfree : ¬(t.find? path).isSome) (hopen : refusal? path t = none) :
    passThrough path t = .ok (past t) := by
  unfold refusal? at hopen
  cases htarget : t.target path with
  | error e =>
    rw [htarget] at hopen
    cases hopen
  | ok found =>
    obtain ⟨parent, name, rfl⟩ := h.target htarget
    rw [htarget] at hopen
    rw [FileTree.find?_of_named htarget, Option.not_isSome_iff_eq_none] at hfree
    exact passThrough_of_open htarget hfree hopen

end

variable {directory stem : String} {s : NameSpace}

/-- The path under which a file is made at this number. -/
def pathAt (directory stem : String) (number : Nat) (s : NameSpace) : String :=
  Path.join directory (s.nameAt stem number)

/-- There is something under the numbered name. -/
def Taken (directory stem : String) (number : Nat) (s : NameSpace) : Prop :=
  (s.files.find? (s.pathAt directory stem number)).isSome

/-- So many numbers were drawn. -/
def drawn (count : Nat) (s : NameSpace) : NameSpace :=
  { s with counter := s.counter + count }

theorem toList_nameAt (stem : String) (number : Nat) (s : NameSpace) :
    (s.nameAt stem number).toList =
      stem.toList ++ '-' :: Nat.toDigits 10 s.pid ++ '-' :: Nat.toDigits 10 number := by
  simp [nameAt]

/-- Every path that is tried ends in its number. -/
theorem numbered_pathAt (directory stem : String) (number : Nat) (s : NameSpace) :
    Numbered number (s.pathAt directory stem number) := by
  obtain ⟨before, hbefore⟩ := Path.toList_join directory (s.nameAt stem number)
  rw [toList_nameAt, ← List.append_assoc] at hbefore
  exact ⟨_, hbefore⟩

theorem claim_of_taken (h : s.Taken directory stem s.counter) :
    s.claim directory stem = (.error .alreadyExists, s.drawn 1) := by
  have hpass := (numbered_pathAt directory stem s.counter s).passThrough_of_taken h
  unfold claim
  rw [← pathAt, hpass]
  rfl

theorem claim_of_refused (hfree : ¬s.Taken directory stem s.counter) {cause : IoError}
    (hcause : refusal? (s.pathAt directory stem s.counter) s.files = some cause) :
    s.claim directory stem = (.error cause, s.drawn 1) := by
  have hpass := (numbered_pathAt directory stem s.counter s).passThrough_of_refused hfree hcause
  unfold claim
  rw [← pathAt, hpass]
  rfl

theorem claim_of_free (hfree : ¬s.Taken directory stem s.counter)
    (hopen : refusal? (s.pathAt directory stem s.counter) s.files = none) :
    s.claim directory stem = (.ok (), { s.drawn 1 with files := past s.files }) := by
  have hpass := (numbered_pathAt directory stem s.counter s).passThrough_of_free hfree hopen
  unfold claim
  rw [← pathAt, hpass]
  rfl

/-! ### All attempts together -/

/-- What so many attempts can come to. The first name under which there is nothing decides. -/
inductive Creation (directory stem : String) (s : NameSpace) (attempts : Nat) :
    Except IoError Unit × NameSpace → Prop
  | made (tried : Nat) (htried : tried < attempts)
      (htaken : ∀ j < tried, s.Taken directory stem (s.counter + j))
      (hfree : ¬s.Taken directory stem (s.counter + tried))
      (hopen : refusal? (s.pathAt directory stem (s.counter + tried)) s.files = none) :
      Creation directory stem s attempts
        (.ok (), { s.drawn (tried + 1) with files := past s.files })
  | refused (tried : Nat) (htried : tried < attempts)
      (htaken : ∀ j < tried, s.Taken directory stem (s.counter + j))
      (hfree : ¬s.Taken directory stem (s.counter + tried)) (cause : IoError)
      (hcause : refusal? (s.pathAt directory stem (s.counter + tried)) s.files = some cause) :
      Creation directory stem s attempts (.error cause, s.drawn (tried + 1))
  | exhausted (htaken : ∀ j < attempts, s.Taken directory stem (s.counter + j)) :
      Creation directory stem s attempts (.error .alreadyExists, s.drawn attempts)

theorem drawn_drawn (m n : Nat) (s : NameSpace) : (s.drawn m).drawn n = s.drawn (m + n) := by
  rw [drawn, drawn, drawn, Nat.add_assoc]

/-- After a number whose name exists, the others are tried as if they were the first. -/
theorem Creation.after_taken {attempts : Nat} {outcome : Except IoError Unit × NameSpace}
    (hfirst : s.Taken directory stem s.counter)
    (h : Creation directory stem (s.drawn 1) attempts outcome) :
    Creation directory stem s (attempts + 1) outcome := by
  have hshift (j : Nat) : (s.drawn 1).counter + j = s.counter + (j + 1) := by
    show s.counter + 1 + j = _
    omega
  have hall {tried : Nat}
      (htaken : ∀ j < tried, (s.drawn 1).Taken directory stem ((s.drawn 1).counter + j)) :
      ∀ j < tried + 1, s.Taken directory stem (s.counter + j) := by
    intro j hj
    cases j with
    | zero => exact hfirst
    | succ j =>
      have hlater := htaken j (Nat.lt_of_succ_lt_succ hj)
      rwa [hshift] at hlater
  cases h with
  | made tried htried htaken hfree hopen =>
    rw [hshift] at hfree hopen
    rw [drawn_drawn, Nat.add_comm 1]
    exact .made (tried + 1) (Nat.succ_lt_succ htried) (hall htaken) hfree hopen
  | refused tried htried htaken hfree cause hcause =>
    rw [hshift] at hfree hcause
    rw [drawn_drawn, Nat.add_comm 1]
    exact .refused (tried + 1) (Nat.succ_lt_succ htried) (hall htaken) hfree cause hcause
  | exhausted htaken =>
    rw [drawn_drawn, Nat.add_comm 1]
    exact .exhausted (hall htaken)

/-- What trying so many names comes to, case by case. -/
theorem creation_createWithin (directory stem : String) (attempts : Nat) (s : NameSpace) :
    Creation directory stem s attempts (s.createWithin directory stem attempts .alreadyExists) := by
  induction attempts generalizing s with
  | zero => exact .exhausted fun j hj => absurd hj (Nat.not_lt_zero j)
  | succ attempts ih =>
    rw [createWithin_succ]
    by_cases htaken : s.Taken directory stem s.counter
    · rw [claim_of_taken htaken]
      exact (ih (s.drawn 1)).after_taken htaken
    · have hnone : ∀ j < 0, s.Taken directory stem (s.counter + j) :=
        fun j hj => absurd hj (Nat.not_lt_zero j)
      cases hrefusal : refusal? (s.pathAt directory stem s.counter) s.files with
      | none =>
        rw [claim_of_free htaken hrefusal]
        exact .made 0 (Nat.succ_pos attempts) hnone htaken hrefusal
      | some cause =>
        rw [claim_of_refused htaken hrefusal]
        dsimp only
        rw [if_neg (kind_refusal hrefusal)]
        exact .refused 0 (Nat.succ_pos attempts) hnone htaken cause hrefusal

theorem creation_createUnlinked (directory stem : String) (s : NameSpace) :
    Creation directory stem s maxAttempts (s.createUnlinked directory stem) :=
  creation_createWithin directory stem maxAttempts s

section

variable {attempts : Nat} {outcome : Except IoError Unit × NameSpace}

/-- Nothing that existed is touched, and nothing stays behind. -/
theorem Creation.entries (h : Creation directory stem s attempts outcome) :
    outcome.2.files.entries = s.files.entries := by
  cases h <;> rfl

/-- A creation fails as taken exactly if all names were taken. -/
theorem Creation.alreadyExists_iff (h : Creation directory stem s attempts outcome) :
    (∃ e, outcome.1 = .error e ∧ e.kind = .alreadyExists) ↔
      ∀ j < attempts, s.Taken directory stem (s.counter + j) := by
  cases h with
  | made tried htried _ hfree =>
    refine iff_of_false ?_ fun hall => hfree (hall tried htried)
    rintro ⟨e, he, -⟩
    cases he
  | refused tried htried _ hfree cause hcause =>
    refine iff_of_false ?_ fun hall => hfree (hall tried htried)
    rintro ⟨e, he, hkind⟩
    cases he
    exact kind_refusal hcause hkind
  | exhausted htaken => exact iff_of_true ⟨_, rfl, rfl⟩ htaken

end

/-! ### A directory that takes files -/

/-- The directory is there, files can be made in it, and the next names can be given to files. -/
structure Open (directory stem : String) (s : NameSpace) : Prop where
  there : ∃ d, s.files.lookup directory = .ok (some d) ∧ d.kind = .directory ∧
    d.managed = false ∧ d.isWritable = true
  plain : '/' ∉ stem.toList
  clean : Path.hasNul stem = false
  short : ∀ j < maxAttempts, (s.nameAt stem (s.counter + j)).utf8ByteSize ≤ Path.stepLimit ∧
    (s.pathAt directory stem (s.counter + j)).utf8ByteSize < Path.limit

theorem not_mem_nameAt {c : Char} (hdigit : c.isDigit = false) (hdash : c ≠ '-')
    (hstem : c ∉ stem.toList) (number : Nat) (s : NameSpace) :
    c ∉ (s.nameAt stem number).toList := by
  rw [toList_nameAt]
  simp only [List.mem_append, List.mem_cons, not_or]
  exact ⟨⟨hstem, hdash, not_mem_digits hdigit s.pid⟩, hdash, not_mem_digits hdigit number⟩

/-- In an open directory, no name is refused. -/
theorem Open.refusal?_eq_none (h : Open directory stem s) {j : Nat} (hj : j < maxAttempts) :
    refusal? (s.pathAt directory stem (s.counter + j)) s.files = none := by
  obtain ⟨d, hlookup, hd, hmanaged, hwritable⟩ := h.there
  obtain ⟨hstep, hpath⟩ := h.short j hj
  have hplain := not_mem_nameAt (by decide) (by decide) h.plain (s.counter + j) s
  have hclean : Path.hasNul (s.nameAt stem (s.counter + j)) = false := by
    have hstem : '\x00' ∉ stem.toList := by simpa [Path.hasNul] using h.clean
    have hnone := not_mem_nameAt (by decide) (by decide) hstem (s.counter + j) s
    simpa [Path.hasNul] using hnone
  have hname : s.nameAt stem (s.counter + j) ∉ ["", ".", ".."] := by
    have hdash : '-' ∈ (s.nameAt stem (s.counter + j)).toList := by
      rw [toList_nameAt]
      exact List.mem_append_right _ List.mem_cons_self
    exact not_dots_of_dash hdash
  obtain ⟨place, htarget, hentry⟩ :=
    FileTree.target_join hlookup hd hname hplain hclean hstep hpath
  rw [refusal?, pathAt, htarget]
  dsimp only
  rw [FileTree.closedError?, hentry]
  dsimp only
  rw [hmanaged, hwritable]
  rfl

/-- In such a directory an attempt fails for no other reason than that the name exists. -/
theorem Open.made_or_exhausted (h : Open directory stem s)
    {outcome : Except IoError Unit × NameSpace}
    (hcreation : Creation directory stem s maxAttempts outcome) :
    outcome.1 = .ok () ∨ outcome.1 = .error .alreadyExists := by
  cases hcreation with
  | made => exact .inl rfl
  | refused tried htried _ _ cause hcause =>
    rw [h.refusal?_eq_none htried] at hcause
    cases hcause
  | exhausted => exact .inr rfl

/-! ### Which attempts were made -/

/-- The number that was drawn for an attempt, and the path that was made of it. -/
structure Attempt where
  number : Nat
  path : String

/-- The attempts of `createWithin`, in order. -/
def attempts (directory stem : String) : Nat → NameSpace → List Attempt
  | 0, _ => []
  | count + 1, s =>
    ⟨s.counter, s.pathAt directory stem s.counter⟩ ::
      match s.claim directory stem with
      | (.ok (), _) => []
      | (.error e, s') => if e.kind = .alreadyExists then attempts directory stem count s' else []

/-- The attempts draw all numbers from the first up to the last in order, and each makes its path
of its own number. -/
structure Consecutive (first last : Nat) (tried : List Attempt) : Prop where
  numbers : tried.map Attempt.number = List.range' first tried.length
  last : last = first + tried.length
  paths : ∀ a ∈ tried, Numbered a.number a.path

namespace Consecutive

theorem nil (first : Nat) : Consecutive first first [] where
  numbers := rfl
  last := rfl
  paths := fun _ h => nomatch h

theorem append {first next last : Nat} {tried later : List Attempt}
    (h : Consecutive first next tried) (hlater : Consecutive next last later) :
    Consecutive first last (tried ++ later) where
  numbers := by
    rw [List.map_append, h.numbers, hlater.numbers, h.last, List.length_append]
    exact List.range'_append_1
  last := by
    rw [hlater.last, h.last, List.length_append, Nat.add_assoc]
  paths := fun a ha => (List.mem_append.mp ha).elim (h.paths a) (hlater.paths a)

variable {first last : Nat} {tried : List Attempt}

theorem pairwise_lt (h : Consecutive first last tried) :
    tried.Pairwise fun a b => a.number < b.number := by
  have hincreasing := List.pairwise_lt_range' (s := first) (n := tried.length)
  rwa [← h.numbers, List.pairwise_map] at hincreasing

theorem number_lt (h : Consecutive first last tried) {a : Attempt} (ha : a ∈ tried) :
    first ≤ a.number ∧ a.number < last := by
  have hmem := List.mem_map_of_mem (f := Attempt.number) ha
  rw [h.numbers, List.mem_range'_1, ← h.last] at hmem
  exact hmem

/-- No two attempts draw the same number. -/
theorem nodup_numbers (h : Consecutive first last tried) : (tried.map Attempt.number).Nodup := by
  rw [h.numbers]
  exact List.nodup_range'

/-- Nor the same word, until all words were drawn. -/
theorem nodup_words (h : Consecutive first last tried)
    (hcount : tried.length ≤ 0x10000000000000000) :
    (tried.map fun a => UInt64.ofNat a.number).Nodup := by
  rw [List.Nodup, List.pairwise_map]
  refine h.pairwise_lt.imp_of_mem ?_
  intro a b ha hb hlt heq
  have ha := (h.number_lt ha).1
  have hb := (h.number_lt hb).2
  have hwords := congrArg UInt64.toNat heq
  rw [UInt64.toNat_ofNat', UInt64.toNat_ofNat'] at hwords
  have hlast := h.last
  omega

/-- Nor do two attempts use the same path. -/
theorem nodup_paths (h : Consecutive first last tried) : (tried.map Attempt.path).Nodup := by
  rw [List.Nodup, List.pairwise_map]
  refine h.pairwise_lt.imp_of_mem ?_
  intro a b ha hb hlt heq
  have hb := h.paths b hb
  rw [← heq] at hb
  exact Nat.ne_of_lt hlt ((h.paths a ha).unique hb)

end Consecutive

theorem consecutive_one (directory stem : String) (s : NameSpace) :
    Consecutive s.counter (s.counter + 1) [⟨s.counter, s.pathAt directory stem s.counter⟩] where
  numbers := rfl
  last := rfl
  paths := by
    intro a ha
    rw [List.mem_singleton.mp ha]
    exact numbered_pathAt directory stem s.counter s

theorem attempts_succ (directory stem : String) (count : Nat) (s : NameSpace) :
    attempts directory stem (count + 1) s =
      ⟨s.counter, s.pathAt directory stem s.counter⟩ ::
        match s.claim directory stem with
        | (.ok (), _) => []
        | (.error e, s') =>
          if e.kind = .alreadyExists then attempts directory stem count s' else [] := by
  rfl

/-- A creation takes consecutive numbers. -/
theorem consecutive_attempts (directory stem : String) (count : Nat) (cause : IoError)
    (s : NameSpace) :
    Consecutive s.counter (s.createWithin directory stem count cause).2.counter
      (attempts directory stem count s) := by
  induction count generalizing cause s with
  | zero => exact .nil s.counter
  | succ count ih =>
    have hdrawn := counter_claim directory stem s
    have hone := consecutive_one directory stem s
    rw [createWithin_succ, attempts_succ]
    generalize s.claim directory stem = claimed at hdrawn ⊢
    obtain ⟨⟨e⟩ | ⟨⟩, s'⟩ := claimed
    · dsimp only at hdrawn ⊢
      rw [← hdrawn] at hone
      by_cases hexists : e.kind = .alreadyExists
      · rw [if_pos hexists, if_pos hexists]
        exact hone.append (ih e s')
      · rw [if_neg hexists, if_neg hexists]
        exact hone
    · dsimp only at hdrawn ⊢
      rw [hdrawn]
      exact hone

end NameSpace

/-! ### Allocations -/

/-- The attempts that an allocation makes: none if there is no layout. -/
def attempts (size : Word) (params : Params) (arena : Arena) (names : NameSpace) :
    List NameSpace.Attempt :=
  match layout? arena.pageMask size params with
  | none => []
  | some _ => NameSpace.attempts arena.directory arena.stem NameSpace.maxAttempts names

/-- An arena counts the files that were made, whatever becomes of them. -/
theorem allocate_rest (size : Word) (params : Params) (arena : Arena) (names : NameSpace) :
    (arena.allocate size params names).2 =
      match layout? arena.pageMask size params with
      | none => (arena, names)
      | some _ =>
        let created := names.createUnlinked arena.directory arena.stem
        ({ arena with
            allocations := arena.allocations + if created.1.isOk then 1 else 0 }, created.2) := by
  unfold allocate
  cases layout? arena.pageMask size params with
  | none => rfl
  | some layout =>
    dsimp only
    rcases names.createUnlinked arena.directory arena.stem with ⟨_ | _, names'⟩
    · rfl
    · dsimp only
      cases names'.storage.makeFile names'.counter layout.capacity <;> rfl

theorem entries_allocate (size : Word) (params : Params) (arena : Arena) (names : NameSpace) :
    (arena.allocate size params names).2.2.files.entries = names.files.entries := by
  rw [allocate_rest]
  cases layout? arena.pageMask size params with
  | none => rfl
  | some layout => exact (NameSpace.creation_createUnlinked ..).entries

theorem consecutive_attempts (size : Word) (params : Params) (arena : Arena) (names : NameSpace) :
    NameSpace.Consecutive names.counter (arena.allocate size params names).2.2.counter
      (arena.attempts size params names) := by
  rw [allocate_rest, attempts]
  cases layout? arena.pageMask size params with
  | none => exact .nil names.counter
  | some layout => exact NameSpace.consecutive_attempts ..

end Framecast.Arena
