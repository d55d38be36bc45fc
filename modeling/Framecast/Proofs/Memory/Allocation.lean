import Mathlib.Logic.Relation
import Framecast.Frame.Deframer
import Framecast.Proofs.Memory.Layout

/-!
# Allocations

A request that has no layout fails before the system is asked for anything. Any other makes a file,
and if the system grants its length the allocation lies in the file as the request says
(`allocated_allocate`). Writing to the visible range changes neither its place nor the length of the
file, so that all later sums stay words and a receiver accepts the region in the end
(`allocate_placed`).
-/

namespace Framecast

/-- Overwriting a range that lies in the file leaves its length. -/
theorem File.size_overwrite {f : File} {start : Nat} {piece : Piece}
    (h : start + piece.size ≤ f.size) : (f.overwrite start piece).size = f.size := by
  by_cases hempty : piece.size = 0
  · rw [overwrite, if_pos hempty]
  · rw [← length_toBytes, toBytes_overwrite hempty]
    simp only [List.length_append, List.length_take, List.length_replicate, List.length_drop,
      length_toBytes, Piece.length_toBytes]
    omega

namespace Arena

/-! ### What was asked for -/

theorem counter_claim (directory stem : String) (s : NameSpace) :
    (s.claim directory stem).2.counter = s.counter + 1 := by
  unfold NameSpace.claim
  dsimp only
  split <;> rfl

theorem createWithin_succ (directory stem : String) (attempts : Nat) (last : IoError)
    (s : NameSpace) : s.createWithin directory stem (attempts + 1) last =
      match s.claim directory stem with
      | (.ok (), s') => (.ok (), s')
      | (.error e, s') =>
        if e.kind = .alreadyExists then s'.createWithin directory stem attempts e
        else (.error e, s') := by
  rfl

/-- An allocation takes a number, if it tries a name at all. -/
theorem counter_createWithin (directory stem : String) (attempts : Nat) (last : IoError)
    (s : NameSpace) :
    s.counter + min attempts 1 ≤ (s.createWithin directory stem attempts last).2.counter := by
  induction attempts generalizing last s with
  | zero => exact Nat.le_refl _
  | succ attempts ih =>
    have hclaim := counter_claim directory stem s
    rw [createWithin_succ]
    generalize s.claim directory stem = claimed at hclaim ⊢
    obtain ⟨⟨e⟩ | ⟨⟩, s'⟩ := claimed
    · dsimp only at hclaim ⊢
      have hlater := ih e s'
      split
      · omega
      · show _ ≤ s'.counter
        omega
    · dsimp only at hclaim ⊢
      omega

/-- Making a file draws at least one number for its name. -/
theorem counter_lt_createUnlinked (directory stem : String) (s : NameSpace) :
    s.counter < (s.createUnlinked directory stem).2.counter := by
  rw [NameSpace.createUnlinked]
  exact counter_createWithin directory stem NameSpace.maxAttempts .alreadyExists s

/-- The pages of an arena are as long as a power of two says. -/
theorem pageSize_dvd (arena : Arena) : arena.pageSize ∣ 0x8000000000000000 :=
  Nat.pow_dvd_pow 2 (Nat.le_of_lt arena.pageBits.isLt)

theorem toNat_pageMask (arena : Arena) : arena.pageMask.toNat + 1 = arena.pageSize := by
  have hpos : 0 < arena.pageSize := Nat.pow_pos (by decide)
  have hle := Nat.le_of_dvd (by decide) arena.pageSize_dvd
  rw [pageMask, UInt64.toNat_ofNat_of_lt' (by show _ < 0x10000000000000000; omega)]
  exact Nat.sub_add_cancel hpos

/-- The allocation lies in its file, of whole pages, as was asked for. -/
structure Allocation.Placed (page : Nat) (size : Word) (params : Params) (a : Allocation) :
    Prop where
  size : a.size = size
  start : RoundsTo (params.align.toNat + 1) params.lead.toNat a.offset.toNat
  whole : RoundsTo page (a.size.toNat + a.offset.toNat + params.padding.toNat) a.capacity.toNat
  /-- The file can be mapped as a whole. -/
  short : a.capacity.toNat ≤ Region.largestGap
  file : a.file.size = a.capacity.toNat

/-- All that a request can come to. -/
inductive Allocated (size : Word) (params : Params) (arena : Arena) (names : NameSpace) :
    Except AllocationError Allocation × Arena × NameSpace → Prop
  | overflowed (h : Overflows arena.pageSize size params) :
      Allocated size params arena names (.error ⟨size, overflow⟩, arena, names)
  /-- The system made no file. -/
  | uncreated (h : ¬Overflows arena.pageSize size params) (cause : IoError) (names' : NameSpace)
      (hcreate : names.createUnlinked arena.directory arena.stem = (.error cause, names')) :
      Allocated size params arena names (.error ⟨size, cause⟩, arena, names')
  /-- There was a file, and the system did not grant its length. -/
  | unreserved (h : ¬Overflows arena.pageSize size params) (cause : IoError) (names' : NameSpace)
      (layout : Layout) (hlayout : layout? arena.pageMask size params = some layout)
      (hcreate : names.createUnlinked arena.directory arena.stem = (.ok (), names'))
      (hmake : names'.storage.makeFile names'.counter layout.capacity = .error cause) :
      Allocated size params arena names
        (.error ⟨size, cause⟩, { arena with allocations := arena.allocations + 1 }, names')
  | granted (h : ¬Overflows arena.pageSize size params) (a : Allocation) (names' : NameSpace)
      (hplaced : a.Placed arena.pageSize size params)
      (hcreate : names.createUnlinked arena.directory arena.stem = (.ok (), names'))
      (hmake : names'.storage.makeFile names'.counter a.capacity = .ok a.file) :
      Allocated size params arena names
        (.ok a, { arena with allocations := arena.allocations + 1 }, names')

theorem size_zeros (size : Nat) : (File.zeros size).size = size := by
  rw [← File.length_toBytes, File.toBytes_zeros, List.length_replicate]

variable {page : Nat} {size : Word} {params : Params}

/-- What an allocation comes to, case by case. -/
theorem allocated_allocate (size : Word) (params : Params) (arena : Arena) (names : NameSpace) :
    Allocated size params arena names (arena.allocate size params names) := by
  have hmask := arena.toNat_pageMask
  have hpages := arena.pageSize_dvd
  unfold allocate
  split
  · rename_i hnone
    exact .overflowed ((layout?_eq_none_iff hmask hpages).mp hnone)
  · rename_i layout hlayout
    obtain ⟨hstart, hwhole⟩ := (layout?_eq_some_iff hmask hpages).mp hlayout
    have hfits : ¬Overflows arena.pageSize size params := by
      rw [← layout?_eq_none_iff hmask hpages, hlayout]
      exact Option.some_ne_none layout
    split
    · rename_i cause names' hcreate
      exact .uncreated hfits cause names' hcreate
    · rename_i names' hcreate
      dsimp only
      split
      · rename_i cause hmake
        exact .unreserved hfits cause names' layout hlayout hcreate hmake
      · rename_i file hmake
        obtain ⟨hfile, hshort⟩ := Storage.makeFile_ok hmake
        have hplaced : Allocation.Placed arena.pageSize size params
            ⟨file, layout.offset, size, layout.capacity⟩ :=
          ⟨rfl, (pad_eq_some_iff.mp hstart).2.2, hwhole, hshort, hfile ▸ size_zeros _⟩
        exact .granted hfits _ names' hplaced hcreate hmake

/-! ### What is done with an allocation -/

namespace Allocation

/-- Somebody writes to the visible range. -/
inductive Edit : Allocation → Allocation → Prop
  | poke (a : Allocation) (start : Nat) (data : Bytes) : Edit a (a.poke start data)
  | fill (a : Allocation) (byte : UInt8) : Edit a (a.fill byte)
  | write {a b : Allocation} (start : Word) (data : Bytes)
      (hdata : data.length < 0x10000000000000000) (h : a.writeAt start data = .ok b) : Edit a b

variable {a b : Allocation}

/-- The visible range and the padding end in the file, which ends long before the last word. -/
theorem Placed.bounds (h : a.Placed page size params) :
    a.offset.toNat + a.size.toNat + params.padding.toNat ≤ a.capacity.toNat ∧
      a.capacity.toNat < 0xffffffffffffffff := by
  have hgap : Region.largestGap = 0x555555544000 := rfl
  have hle := h.whole.le
  have hshort := h.short
  omega

/-- The sum that is compared is clipped at the last word, and yet exactly the writes that pass the
end of a range are refused. -/
theorem size_lt_finish_iff {start : Word} {data : Bytes}
    (hdata : data.length < 0x10000000000000000) (hsize : size.toNat < 0xffffffffffffffff) :
    size < finish start data ↔ size.toNat < start.toNat + data.length := by
  have hlength : (UInt64.ofNat data.length).toNat = data.length :=
    UInt64.toNat_ofNat_of_lt' hdata
  have hend := Word.toNat_satAdd start (UInt64.ofNat data.length)
  rw [hlength] at hend
  rw [UInt64.lt_iff_toNat_lt]
  change size.toNat < (start.satAdd (UInt64.ofNat data.length)).toNat ↔ _
  omega

/-- A write that is not refused ends in the visible range. -/
theorem Placed.writeAt_ok (h : a.Placed page size params) {start : Word} {data : Bytes}
    (hdata : data.length < 0x10000000000000000) (hwrite : a.writeAt start data = .ok b) :
    start.toNat + data.length ≤ a.size.toNat ∧
      b = { a with file := a.file.write (a.offset.toNat + start.toNat) data } := by
  obtain ⟨hfits, hroom⟩ := h.bounds
  rw [writeAt_eq] at hwrite
  split at hwrite
  · cases hwrite
  · rename_i hle
    cases hwrite
    rw [size_lt_finish_iff hdata (by omega)] at hle
    exact ⟨Nat.le_of_not_lt hle, rfl⟩

theorem Placed.overwrite (h : a.Placed page size params) {at_ : Nat} {piece : Piece}
    (hfits : at_ + piece.size ≤ a.offset.toNat + a.size.toNat) :
    Placed page size params { a with file := a.file.overwrite at_ piece } := by
  have hbounds := h.bounds.1
  refine ⟨h.size, h.start, h.whole, h.short, ?_⟩
  show (a.file.overwrite at_ piece).size = _
  rw [File.size_overwrite (by rw [h.file]; omega), h.file]

/-- A write by its holder leaves an allocation where it is. -/
theorem Placed.edit (h : a.Placed page size params) (hedit : a.Edit b) :
    b.Placed page size params := by
  cases hedit with
  | poke start data =>
    rcases Nat.le_total start a.size.toNat with hstart | hstart
    · refine h.overwrite ?_
      simp only [Piece.size, List.length_take]
      omega
    · have hnothing : data.take (a.size.toNat - start) = [] := by
        rw [Nat.sub_eq_zero_of_le hstart, List.take_zero]
      have hsame : a.poke start data = a := by
        rw [poke, hnothing]
        rfl
      rw [hsame]
      exact h
  | fill byte => exact h.overwrite (Nat.le_refl _)
  | write start data hdata hwrite =>
    obtain ⟨hend, rfl⟩ := h.writeAt_ok hdata hwrite
    refine h.overwrite ?_
    simp only [Piece.size]
    omega

/-- However the visible range is written to, the allocation keeps its place. -/
theorem Placed.edits (h : a.Placed page size params) (hedits : Relation.ReflTransGen Edit a b) :
    b.Placed page size params := by
  induction hedits with
  | refl => exact h
  | tail _ hedit ih => exact ih.edit hedit

/-- A receiver accepts the region as it is. -/
theorem Placed.region_handOff (h : a.Placed page size params) (timestamp : Word) :
    let r := a.handOff
    let header := Header.referenced timestamp r.offset r.size
    header.isInline = false ∧
      Deframer.region header [r.descriptor] = .ok { r with readonly := true } := by
  obtain ⟨hfits, hroom⟩ := h.bounds
  have hmark : Header.inlineMark.toNat = 0xffffffffffffffff := rfl
  have hend : a.offset.add? a.size = some (a.offset + a.size) := by
    rw [Word.add?, if_pos (by omega)]
  have hsum := Word.add?_eq_some_iff.mp hend
  have hfile : (UInt64.ofNat a.file.size).toNat = a.capacity.toNat := by
    rw [h.file, UInt64.ofNat_toNat]
  have hlong : ¬ UInt64.ofNat a.file.size < a.offset + a.size := by
    rw [UInt64.lt_iff_toNat_lt, hfile]
    omega
  constructor
  · show (a.offset == Header.inlineMark) = false
    rw [beq_eq_false_iff_ne]
    intro heq
    have heq := congrArg UInt64.toNat heq
    omega
  · have hfinish : (Header.referenced timestamp a.offset a.size).payloadEnd? =
        some (a.offset + a.size) := hend
    show Deframer.region (Header.referenced timestamp a.offset a.size) [.file a.file] = _
    rw [Deframer.region, hfinish]
    exact if_neg hlong

end Allocation

/-- **Allocations lie where they should.** A request fails without any effect exactly if its layout
is beyond the range of words, and before a number is drawn for a file name. Otherwise the system
decides: what it answers to making the file and to its length is the cause of the failure, or the
allocation starts at the least multiple of the alignment from the lead on, in a file of the fewest
whole pages that hold it and its padding. That stays so however the visible range is written to:
the sums of places in it are words, and a receiver accepts the region. -/
theorem allocate_placed (size : Word) (params : Params) (arena : Arena) (names : NameSpace) :
    let allocated := arena.allocate size params names
    (pad params.lead params.align = none ↔ 0x10000000000000000 ≤ params.align.toNat + 1 ∨
      0x10000000000000000 ≤ params.lead.toNat + params.align.toNat) ∧
    overflow.kind = .invalidInput ∧ overflow.message = "allocation size overflows" ∧
    Allocated size params arena names allocated ∧
    (allocated.2.2.counter = names.counter ↔ Overflows arena.pageSize size params) ∧
    ∀ a b, allocated.1 = .ok a → Relation.ReflTransGen Allocation.Edit a b →
      b.Placed arena.pageSize size params ∧
      b.offset.toNat + b.size.toNat < 0x10000000000000000 ∧
      (∀ start data c, data.length < 0x10000000000000000 → b.writeAt start data = .ok c →
        b.offset.toNat + start.toNat + data.length ≤ b.offset.toNat + b.size.toNat) ∧
      ∀ timestamp,
        let r := b.handOff
        let header := Header.referenced timestamp r.offset r.size
        header.isInline = false ∧
          Deframer.region header [r.descriptor] = .ok { r with readonly := true } := by
  intro allocated
  have hallocated : Allocated size params arena names allocated := allocated_allocate ..
  have hdrawn := counter_lt_createUnlinked arena.directory arena.stem names
  refine ⟨pad_eq_none_iff, rfl, rfl, hallocated, ?_, ?_⟩
  · generalize allocated = outcome at hallocated
    cases hallocated with
    | overflowed h => exact iff_of_true rfl h
    | uncreated h cause names' hcreate | unreserved h cause names' layout hlayout hcreate
    | granted h a names' hplaced hcreate =>
      rw [hcreate] at hdrawn
      exact iff_of_false (Nat.ne_of_gt hdrawn) h
  · intro a b hok hedits
    have hplaced : a.Placed arena.pageSize size params := by
      generalize allocated = outcome at hallocated hok
      cases hallocated with
      | overflowed | uncreated | unreserved => cases hok
      | granted h a' names' hplaced =>
        cases hok
        exact hplaced
    have hb := hplaced.edits hedits
    obtain ⟨hfits, hroom⟩ := hb.bounds
    refine ⟨hb, by omega, ?_, hb.region_handOff⟩
    intro start data c hdata hwrite
    have hend := (hb.writeAt_ok hdata hwrite).1
    omega

/-- A file offset is a signed word, so that half of the words have no file of their length: the file
is made and counted, and then refused as an invalid argument. -/
theorem allocate_beyond_file_offsets :
    let allocated := ({} : Arena).allocate 0x8000000000000000 {} {}
    ¬Overflows ({} : Arena).pageSize 0x8000000000000000 {} ∧
    allocated.1 = .error ⟨0x8000000000000000, .invalidArgument⟩ ∧
    IoError.invalidArgument.kind = .invalidInput ∧
    allocated.2.1.allocations = 1 ∧ allocated.2.2.counter = 1 := by
  have hcause : (match (({} : Arena).allocate 0x8000000000000000 {} {}).1 with
      | .ok _ => none
      | .error e => some e) = some ⟨0x8000000000000000, .invalidArgument⟩ := by
    decide +kernel
  intro allocated
  refine ⟨?_, ?_, rfl, ?_, ?_⟩
  · rw [← layout?_eq_none_iff ({} : Arena).toNat_pageMask ({} : Arena).pageSize_dvd]
    decide
  · change (match allocated.1 with | .ok _ => none | .error e => some e) = _ at hcause
    generalize allocated.1 = result at hcause ⊢
    cases result with
    | ok => cases hcause
    | error e => rw [Option.some.inj hcause]
  · decide +kernel
  · decide +kernel

end Arena

end Framecast
