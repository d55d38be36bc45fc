import Framecast.Json.Record
import Framecast.Proofs.Json.Number
import Framecast.Proofs.Json.Quoted
import Mathlib.Data.List.Forall2
import Mathlib.Data.List.Nodup

/-!
# Reading written records

A record that was written is read back, if each of its fields holds a value of its kind. The members
are read one after the other, so the text behind those that were read is what `tail` gives for the
others.
-/

namespace Framecast.Json

/-- A field of this kind may hold the value. -/
def FieldKind.Admits : FieldKind → FieldValue → Prop
  | .text, .text _ => True
  | .optionalText, .text _ => True
  | .optionalText, .absent => True
  | .optionalIndex, .index n => n < 0x100000000
  | .optionalIndex, .absent => True
  | _, _ => False

/-- There is a value for every field, in order. -/
structure Fits (fields : List Field) (values : FieldValues) : Prop where
  values : List.Forall₂ (fun f v => v.1 = f.name ∧ f.kind.Admits v.2) fields values
  distinct : (fields.map (·.name)).Nodup

/-- What may follow a value inside an object. -/
inductive Closes : Bytes → Prop
  | comma (rest : Bytes) : Closes (44 :: rest)
  | brace (rest : Bytes) : Closes (125 :: rest)

theorem Closes.endsNumber {rest : Bytes} (h : Closes rest) : EndsNumber rest := by
  intro b more hrest
  cases h with
  | comma =>
    cases hrest
    decide
  | brace =>
    cases hrest
    decide

/-! ### Values -/

/-- A text member is read back. -/
theorem readText_quote (text : String) (rest : Bytes) :
    readText (quote (Bytes.ofText text) ++ rest) = .ok (.text text, rest) := by
  have hskip : skipBlanks (quote (Bytes.ofText text) ++ rest) =
      quoteMark :: (quoteBody (Bytes.ofText text) ++ quoteMark :: rest) := by
    unfold quote
    rw [List.append_assoc]
    rfl
  unfold readText
  rw [hskip]
  dsimp only
  rw [if_pos rfl, unquote_quoteBody]
  rfl

theorem decimal_ne_nil (n : Nat) : decimal n ≠ [] := by
  by_cases hzero : n = 0
  · rw [hzero]
    decide
  · obtain ⟨b, digits, hdecimal, -⟩ := decimal_head hzero
    rw [hdecimal]
    exact List.cons_ne_nil _ _

/-- A digit is not taken for anything else. -/
theorem ne_of_isDigit {b other : UInt8} (hb : isDigit b = true) (hother : isDigit other = false) :
    b ≠ other := by
  rintro rfl
  rw [hb] at hother
  cases hother

theorem skipBlanks_digit {b : UInt8} (hb : isDigit b = true) (rest : Bytes) :
    skipBlanks (b :: rest) = b :: rest := by
  have hblank : isBlank b = false := by
    unfold isBlank
    have hspace : b ≠ 32 := ne_of_isDigit hb rfl
    have htab : b ≠ 9 := ne_of_isDigit hb rfl
    have hline : b ≠ 10 := ne_of_isDigit hb rfl
    have hreturn : b ≠ 13 := ne_of_isDigit hb rfl
    simp [hspace, htab, hline, hreturn]
  unfold skipBlanks
  rw [List.dropWhile_cons_of_neg (by simp [hblank])]

/-- A number member is read back. -/
theorem readIndex_decimal {n : Nat} (hn : n < 0x100000000) {rest : Bytes} (hrest : Closes rest) :
    readIndex (decimal n ++ rest) = .ok (.index n, rest) := by
  have hword : n < significandLimit := Nat.lt_trans hn (by decide)
  have hread := readNumber_decimal hword hrest.endsNumber
  obtain ⟨b, digits, hdecimal⟩ := List.exists_cons_of_ne_nil (decimal_ne_nil n)
  have hdigit := isDigit_of_mem_decimal n b (hdecimal ▸ List.mem_cons_self ..)
  unfold readIndex
  rw [hdecimal, List.cons_append] at hread ⊢
  rw [skipBlanks_digit hdigit]
  dsimp only
  rw [if_neg (ne_of_isDigit hdigit rfl), if_pos hdigit, hread]
  exact if_pos hn

theorem readOptional_of_ne {read : Bytes → Except Stop (FieldValue × Bytes)} {b : UInt8}
    {text rest : Bytes} (hskip : skipBlanks text = b :: rest) (hb : b ≠ 110) :
    readOptional read text = read (b :: rest) := by
  unfold readOptional
  rw [hskip]
  split
  · rename_i heq
    cases heq
    exact absurd rfl hb
  · rfl

/-- What was written for a value is read back. -/
theorem FieldKind.read_write {kind : FieldKind} {value : FieldValue} {bytes rest : Bytes}
    (hadmits : kind.Admits value) (hwrite : value.write? = some bytes) (hrest : Closes rest) :
    kind.read (bytes ++ rest) = .ok (value, rest) := by
  have htext (text : String) : readOptional readText (quote (Bytes.ofText text) ++ rest) =
      .ok (.text text, rest) :=
    (readOptional_of_ne rfl (by decide)).trans (readText_quote text rest)
  cases kind with
  | text =>
    cases value with
    | text s =>
      cases hwrite
      exact readText_quote s rest
    | index n => exact hadmits.elim
    | absent => exact hadmits.elim
  | optionalText =>
    cases value with
    | text s =>
      cases hwrite
      exact htext s
    | index n => exact hadmits.elim
    | absent => cases hwrite
  | optionalIndex =>
    cases value with
    | text s => exact hadmits.elim
    | absent => cases hwrite
    | index n =>
      cases hwrite
      show readOptional readIndex (decimal n ++ rest) = _
      obtain ⟨b, digits, hdecimal⟩ := List.exists_cons_of_ne_nil (decimal_ne_nil n)
      have hdigit := isDigit_of_mem_decimal n b (hdecimal ▸ List.mem_cons_self ..)
      have hread := readIndex_decimal hadmits hrest
      rw [hdecimal, List.cons_append] at hread ⊢
      rw [readOptional_of_ne (skipBlanks_digit hdigit _) (ne_of_isDigit hdigit rfl)]
      exact hread

/-! ### Members -/

theorem find?_of_mem {fields : List Field} (hdistinct : (fields.map (·.name)).Nodup) {f : Field}
    (hf : f ∈ fields) : fields.find? (·.name = f.name) = some f := by
  induction fields with
  | nil => cases hf
  | cons g rest ih =>
    rw [List.map_cons, List.nodup_cons] at hdistinct
    rcases List.mem_cons.mp hf with rfl | hf
    · exact List.find?_cons_of_pos (decide_eq_true rfl)
    · have hne : g.name ≠ f.name := by
        intro heq
        exact hdistinct.1 (heq ▸ List.mem_map_of_mem hf)
      rw [List.find?_cons_of_neg (by simpa using hne)]
      exact ih hdistinct.2 hf

/-- A member of a record is read back, with its name. -/
theorem readMember_write {fields : List Field} (hdistinct : (fields.map (·.name)).Nodup) {f : Field}
    (hf : f ∈ fields) {value : FieldValue} (hadmits : f.kind.Admits value) {text rest : Bytes}
    (hwrite : writeMember? (f.name, value) = some text) (hrest : Closes rest) {found : FieldValues}
    (hnew : found.lookup f.name = none) : ∃ key, text = quoteMark :: key ∧
      readMember fields found (key ++ rest) = .ok ((f.name, value) :: found, rest) := by
  obtain ⟨bytes, hbytes, rfl⟩ := Option.map_eq_some_iff.mp hwrite
  refine ⟨quoteBody (Bytes.ofText f.name) ++ quoteMark :: 58 :: bytes, ?_, ?_⟩
  · unfold quote
    simp
  · have hcolon : readColon (58 :: (bytes ++ rest)) = .ok (bytes ++ rest) := rfl
    have hvalue : f.kind.read (bytes ++ rest) = .ok (value, rest) :=
      FieldKind.read_write hadmits hbytes hrest
    unfold readMember
    rw [List.append_assoc, List.cons_append, List.cons_append, unquote_quoteBody]
    dsimp only [bind, Except.bind]
    rw [find?_of_mem hdistinct hf]
    dsimp only
    rw [hnew, hcolon, Option.isSome_none, if_neg Bool.false_ne_true]
    dsimp only
    rw [hvalue]
    rfl

/-- The text behind some members, given that of the members to come. -/
def tail (texts : List Bytes) (rest : Bytes) : Bytes :=
  texts.flatMap (44 :: ·) ++ 125 :: rest

theorem closes_tail (texts : List Bytes) (rest : Bytes) : Closes (tail texts rest) := by
  cases texts with
  | nil => exact .brace rest
  | cons x more => exact .comma _

/-- What was found, once more members were read. -/
def gathered (found : FieldValues) : FieldValues → FieldValues
  | [] => found
  | m :: more => if m.2 = .absent then gathered found more else gathered (m :: found) more

theorem write?_eq_none_iff {value : FieldValue} : value.write? = none ↔ value = .absent := by
  cases value <;> simp [FieldValue.write?]

theorem tail_cons (text : Bytes) (texts : List Bytes) (rest : Bytes) :
    tail (text :: texts) rest = 44 :: (text ++ tail texts rest) := by
  unfold tail
  rw [List.flatMap_cons, List.cons_append, List.cons_append, List.append_assoc]

/-- One more member was read. -/
theorem readMembers_cons {fields : List Field} {found : FieldValues} {m : String × FieldValue}
    {key rest : Bytes} {texts : List Bytes}
    (hread : readMember fields found (key ++ tail texts rest) = .ok (m :: found, tail texts rest))
    (steps : Nat) : readMembers fields (steps + 1) false found
      (tail ((quoteMark :: key) :: texts) rest) =
        readMembers fields steps false (m :: found) (tail texts rest) := by
  have hnext : nextMember false (44 :: (quoteMark :: key ++ tail texts rest)) =
    .ok (.element (key ++ tail texts rest)) := rfl
  rw [tail_cons, readMembers, hnext]
  dsimp only
  rw [hread]

/-- Members that were written are read one after the other. -/
theorem readMembers_tail {fields : List Field} (hdistinct : (fields.map (·.name)).Nodup)
    {members found values : FieldValues} {steps : Nat} (rest : Bytes)
    (hmembers : ∀ m ∈ members, ∃ f ∈ fields, m.1 = f.name ∧ f.kind.Admits m.2)
    (hkeys : (members.map (·.1)).Nodup) (hnew : ∀ m ∈ members, found.lookup m.1 = none)
    (hcomplete : complete fields (gathered found members) = .ok values)
    (hsteps : (members.filterMap writeMember?).length < steps) :
    readMembers fields steps false found (tail (members.filterMap writeMember?) rest) =
      .ok (values, rest) := by
  -- a value that is absent was not written, so the texts may be fewer than the members
  induction members generalizing found steps with
  | nil =>
    obtain ⟨steps, rfl⟩ := Nat.exists_eq_succ_of_ne_zero (Nat.ne_of_gt hsteps)
    have hnext : nextMember false (tail [] rest) = .ok (.finished rest) := rfl
    rw [gathered] at hcomplete
    rw [List.filterMap_nil, readMembers, hnext]
    dsimp only
    rw [hcomplete]
  | cons m more ih =>
    obtain ⟨name, value⟩ := m
    obtain ⟨f, hf, rfl, hadmits⟩ := hmembers (name, value) (List.mem_cons_self ..)
    obtain ⟨hfirst, hkeys⟩ := List.nodup_cons.mp hkeys
    have hmembers (m : String × FieldValue) (hm : m ∈ more) :=
      hmembers m (List.mem_cons_of_mem _ hm)
    by_cases habsent : value = .absent
    · have hnone : writeMember? (f.name, value) = none := by
        rw [writeMember?, habsent]
        rfl
      rw [gathered, if_pos habsent] at hcomplete
      rw [List.filterMap_cons_none hnone] at hsteps ⊢
      exact ih hmembers hkeys (fun m hm => hnew m (List.mem_cons_of_mem _ hm)) hcomplete hsteps
    · obtain ⟨bytes, hbytes⟩ := Option.ne_none_iff_exists'.mp (mt write?_eq_none_iff.mp habsent)
      have hsome : writeMember? (f.name, value) =
          some (quote (Bytes.ofText f.name) ++ 58 :: bytes) := by
        rw [writeMember?, hbytes]
        rfl
      rw [gathered, if_neg habsent] at hcomplete
      rw [List.filterMap_cons_some hsome] at hsteps ⊢
      obtain ⟨steps, rfl⟩ := Nat.exists_eq_succ_of_ne_zero (Nat.ne_of_gt (Nat.zero_lt_of_lt hsteps))
      obtain ⟨key, htext, hread⟩ := readMember_write hdistinct hf hadmits hsome
        (closes_tail (more.filterMap writeMember?) rest) (hnew _ (List.mem_cons_self ..))
      rw [htext, readMembers_cons hread]
      apply ih hmembers hkeys _ hcomplete (Nat.lt_of_succ_lt_succ hsteps)
      intro m hm
      have hne : m.1 ≠ f.name := by
        intro heq
        exact hfirst (List.mem_map.mpr ⟨m, hm, heq⟩)
      rw [List.lookup_cons, beq_false_of_ne hne]
      exact hnew m (List.mem_cons_of_mem _ hm)

theorem commaSeparated_cons (text : Bytes) (texts : List Bytes) :
    commaSeparated (text :: texts) = text ++ texts.flatMap (44 :: ·) := by
  induction texts generalizing text with
  | nil => exact (List.append_nil _).symm
  | cons next more ih =>
    rw [commaSeparated, ih, List.flatMap_cons]
    rfl

/-- The first member is found where the ones behind it are found after their commas. -/
theorem nextMember_first {texts : List Bytes} (rest : Bytes)
    (hquoted : ∀ text ∈ texts, ∃ key, text = quoteMark :: key) :
    nextMember true (commaSeparated texts ++ 125 :: rest) = nextMember false (tail texts rest) := by
  cases texts with
  | nil => rfl
  | cons text more =>
    obtain ⟨key, rfl⟩ := hquoted text (List.mem_cons_self ..)
    have hsame : commaSeparated ((quoteMark :: key) :: more) ++ 125 :: rest =
        quoteMark :: (key ++ tail more rest) := by
      rw [commaSeparated_cons, tail, List.cons_append, List.cons_append, List.append_assoc]
    rw [hsame, tail_cons]
    rfl

theorem quoted_of_mem_filterMap {values : FieldValues} {text : Bytes}
    (htext : text ∈ values.filterMap writeMember?) : ∃ key, text = quoteMark :: key := by
  obtain ⟨m, -, hm⟩ := List.mem_filterMap.mp htext
  obtain ⟨bytes, -, rfl⟩ := Option.map_eq_some_iff.mp hm
  exact ⟨_, rfl⟩

theorem length_le_commaSeparated {texts : List Bytes}
    (hquoted : ∀ text ∈ texts, ∃ key, text = quoteMark :: key) :
    texts.length ≤ (commaSeparated texts).length := by
  cases texts with
  | nil => exact Nat.le_refl _
  | cons text more =>
    have hmore : more.length ≤ (more.flatMap (44 :: ·)).length := by
      induction more with
      | nil => exact Nat.le_refl _
      | cons next more ih =>
        have hrest := ih fun text htext => hquoted text <| by
          rcases List.mem_cons.mp htext with rfl | hmem
          · exact List.mem_cons_self ..
          · exact List.mem_cons_of_mem _ (List.mem_cons_of_mem _ hmem)
        rw [List.flatMap_cons, List.length_append, List.length_cons, List.length_cons]
        omega
    obtain ⟨key, rfl⟩ := hquoted text (List.mem_cons_self ..)
    rw [commaSeparated_cons, List.length_append, List.length_cons, List.length_cons]
    omega

/-! ### Records -/

theorem lookup_gathered_of_ne {key : String} {members : FieldValues}
    (hkey : ∀ m ∈ members, m.2 ≠ .absent → m.1 ≠ key) (found : FieldValues) :
    (gathered found members).lookup key = found.lookup key := by
  induction members generalizing found with
  | nil => rfl
  | cons m more ih =>
    have hmore := ih fun m hm => hkey m (List.mem_cons_of_mem _ hm)
    unfold gathered
    by_cases habsent : m.2 = .absent
    · rw [if_pos habsent]
      exact hmore found
    · have hne : (key == m.1) = false :=
        beq_false_of_ne (hkey m (List.mem_cons_self ..) habsent).symm
      rw [if_neg habsent, hmore, List.lookup_cons, hne]

/-- Every member that is present is found under its name. -/
theorem lookup_gathered {members : FieldValues} (hkeys : (members.map (·.1)).Nodup)
    {m : String × FieldValue} (hm : m ∈ members) (hpresent : m.2 ≠ .absent) (found : FieldValues) :
    (gathered found members).lookup m.1 = some m.2 := by
  induction members generalizing found with
  | nil => cases hm
  | cons n more ih =>
    obtain ⟨hfirst, hkeys⟩ := List.nodup_cons.mp hkeys
    unfold gathered
    rcases List.mem_cons.mp hm with rfl | hm
    · have hothers : ∀ n ∈ more, n.2 ≠ .absent → n.1 ≠ m.1 := by
        intro n hn _ heq
        exact hfirst (List.mem_map.mpr ⟨n, hn, heq⟩)
      rw [if_neg hpresent, lookup_gathered_of_ne hothers]
      exact List.lookup_cons_self
    · split
      · exact ih hkeys hm found
      · exact ih hkeys hm (n :: found)

theorem Fits.keys {fields : List Field} {values : FieldValues} (hfits : Fits fields values) :
    values.map (·.1) = fields.map (·.name) := by
  have hall := hfits.values
  induction hall with
  | nil => rfl
  | cons hfirst hrest ih =>
    have hdistinct := hfits.distinct
    rw [List.map_cons, List.nodup_cons] at hdistinct
    rw [List.map_cons, List.map_cons, hfirst.1, ih ⟨hrest, hdistinct.2⟩]

/-- Every member belongs to a field that admits it. -/
theorem Fits.field {fields : List Field} {values : FieldValues} (hfits : Fits fields values)
    {m : String × FieldValue} (hm : m ∈ values) :
    ∃ f ∈ fields, m.1 = f.name ∧ f.kind.Admits m.2 := by
  have hall := hfits.values
  clear hfits
  induction hall with
  | nil => cases hm
  | @cons f v fields values hfirst hrest ih =>
    rcases List.mem_cons.mp hm with rfl | hm
    · exact ⟨f, List.mem_cons_self .., hfirst⟩
    · obtain ⟨g, hg, hboth⟩ := ih hm
      exact ⟨g, List.mem_cons_of_mem _ hg, hboth⟩

/-- Fields that hold nothing may be missing. -/
theorem complete_of_lookup {fields : List Field} {values found : FieldValues}
    (hall : List.Forall₂ (fun f v => (v.1 = f.name ∧ f.kind.Admits v.2) ∧
      found.lookup v.1 = if v.2 = .absent then none else some v.2) fields values) :
    complete fields found = .ok values := by
  unfold complete
  induction hall with
  | nil => rfl
  | @cons f v fields values hfirst hrest ih =>
    obtain ⟨name, value⟩ := v
    obtain ⟨⟨rfl, hadmits⟩, hlookup⟩ := hfirst
    rw [List.mapM_cons, ih]
    by_cases habsent : value = .absent
    · rw [if_pos habsent] at hlookup
      rw [hlookup, habsent]
      rw [habsent] at hadmits
      cases hkind : f.kind with
      | text =>
        rw [hkind] at hadmits
        exact hadmits.elim
      | optionalText => rfl
      | optionalIndex => rfl
    · rw [if_neg habsent] at hlookup
      rw [hlookup]
      rfl

/-- With the absent members filled in, the values are complete. -/
theorem complete_gathered {fields : List Field} {values : FieldValues}
    (hfits : Fits fields values) : complete fields (gathered [] values) = .ok values := by
  have hkeys : (values.map (·.1)).Nodup := hfits.keys ▸ hfits.distinct
  obtain ⟨hlength, hall⟩ := List.forall₂_iff_zip.mp hfits.values
  apply complete_of_lookup
  refine List.forall₂_iff_zip.mpr ⟨hlength, ?_⟩
  intro f v hboth
  refine ⟨hall hboth, ?_⟩
  have hv : v ∈ values := (List.of_mem_zip hboth).2
  by_cases habsent : v.2 = .absent
  · have hothers : ∀ m ∈ values, m.2 ≠ .absent → m.1 ≠ v.1 := by
      intro m hm hpresent heq
      exact hpresent (List.inj_on_of_nodup_map hkeys hm hv heq ▸ habsent)
    rw [if_pos habsent, lookup_gathered_of_ne hothers]
    rfl
  · rw [if_neg habsent]
    exact lookup_gathered hkeys hv habsent []

/-- A record that was written is read back. -/
theorem readRecord_writeRecord {fields : List Field} {values : FieldValues}
    (hfits : Fits fields values) : readRecord fields (writeRecord values) = .ok values := by
  have hquoted (text : Bytes) (htext : text ∈ values.filterMap writeMember?) :=
    quoted_of_mem_filterMap htext
  have hsteps : (values.filterMap writeMember?).length <
      (commaSeparated (values.filterMap writeMember?) ++ [125]).length + 1 := by
    have hlength := length_le_commaSeparated hquoted
    rw [List.length_append]
    omega
  have htail := readMembers_tail hfits.distinct [] (fun _ hm => hfits.field hm)
    (hfits.keys ▸ hfits.distinct) (fun _ _ => rfl) (complete_gathered hfits) hsteps
  have hread : readFields fields (writeRecord values) = .ok (values, []) := by
    show readMembers fields
      ((commaSeparated (values.filterMap writeMember?) ++ [125]).length + 1) true []
        (commaSeparated (values.filterMap writeMember?) ++ [125]) = _
    rw [readMembers] at htail
    rw [readMembers, nextMember_first [] hquoted]
    exact htail
  unfold readRecord
  rw [hread]
  rfl

/-! ### Line breaks -/

theorem newline_not_mem_writeMember {m : String × FieldValue} {text : Bytes}
    (hwrite : writeMember? m = some text) : 10 ∉ text := by
  obtain ⟨bytes, hbytes, rfl⟩ := Option.map_eq_some_iff.mp hwrite
  have hvalue : 10 ∉ bytes := by
    cases hv : m.2 with
    | text s =>
      rw [hv] at hbytes
      cases hbytes
      exact newline_not_mem_quote _
    | index n =>
      rw [hv] at hbytes
      cases hbytes
      exact newline_not_mem_decimal n
    | absent =>
      rw [hv] at hbytes
      cases hbytes
  rw [List.mem_append, List.mem_cons, not_or, not_or]
  exact ⟨newline_not_mem_quote _, by decide, hvalue⟩

/-- A record contains no line end. -/
theorem newline_not_mem_writeRecord (values : FieldValues) : 10 ∉ writeRecord values := by
  have hmembers : 10 ∉ commaSeparated (values.filterMap writeMember?) := by
    have hall (text : Bytes) (htext : text ∈ values.filterMap writeMember?) : 10 ∉ text := by
      obtain ⟨m, -, hm⟩ := List.mem_filterMap.mp htext
      exact newline_not_mem_writeMember hm
    cases htexts : values.filterMap writeMember? with
    | nil => exact List.not_mem_nil
    | cons text more =>
      rw [htexts] at hall
      rw [commaSeparated_cons, List.mem_append, not_or]
      refine ⟨hall text (List.mem_cons_self ..), ?_⟩
      intro hmem
      obtain ⟨next, hnext, hin⟩ := List.mem_flatMap.mp hmem
      rcases List.mem_cons.mp hin with hcomma | hin
      · exact absurd hcomma (by decide)
      · exact hall next (List.mem_cons_of_mem _ hnext) hin
  unfold writeRecord
  rw [List.mem_append, List.mem_cons, List.mem_singleton]
  rintro ((hmark | hmem) | hmark)
  · exact absurd hmark (by decide)
  · exact hmembers hmem
  · exact absurd hmark (by decide)

end Framecast.Json
