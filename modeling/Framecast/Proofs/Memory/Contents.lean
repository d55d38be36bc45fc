import Framecast.Proofs.Memory.Allocation

/-!
# What an allocation shows

The file of an allocation holds zeros, then the bytes of the visible range, then zeros again
(`Allocation.Holds`). That is so when it is handed out, whatever was asked for, and writing keeps it
so: a write that goes in pieces comes to the same as one at once, and none reaches beyond the
visible range. So the bytes are those that a mapping shows, before and after the allocation was
handed off.
-/

namespace Framecast

namespace File

/-- The system gets on with a write: every call takes something or was interrupted. -/
def GetsOn (answers : List (Except IoError Nat)) : Prop :=
  ∀ answer ∈ answers,
    match answer with
    | .ok taken => 0 < taken
    | .error e => e.kind = .interrupted

theorem getsOn_nil : GetsOn [] := fun _ hnone => nomatch hnone

variable {f : File} {before old after data : Bytes}

/-- What is overwritten gives way, and everything before and behind it stays. -/
theorem toBytes_overwrite_between {piece : Piece} (hf : f.toBytes = before ++ old ++ after)
    (hlength : old.length = piece.size) :
    (f.overwrite before.length piece).toBytes = before ++ piece.toBytes ++ after := by
  have hsame : piece.toBytes.length = old.length := by rw [Piece.length_toBytes, hlength]
  by_cases hempty : piece.size = 0
  · rw [hempty] at hlength
    rw [List.length_eq_zero_iff.mp hlength] at hf hsame
    rw [List.length_eq_zero_iff.mp hsame, overwrite, if_pos hempty, hf]
  · have hgap : before.length - f.size = 0 := by
      rw [← length_toBytes, hf]
      simp only [List.length_append]
      omega
    have hdrop : (before ++ old ++ after).drop (before.length + piece.size) = after := by
      rw [← hlength, ← List.length_append]
      exact List.drop_left
    have htake : (before ++ old ++ after).take before.length = before := by
      rw [List.append_assoc]
      exact List.take_left
    rw [toBytes_overwrite hempty, hf, htake, hgap, hdrop, List.replicate_zero, List.append_nil]

/-- A write replaces exactly the bytes in its place. -/
theorem toBytes_write (hf : f.toBytes = before ++ old ++ after)
    (hlength : old.length = data.length) :
    (f.write before.length data).toBytes = before ++ data ++ after :=
  toBytes_overwrite_between hf hlength

section

variable {answers : List (Except IoError Nat)} {start : Nat}

theorem writeAll_nil : f.writeAll answers start [] = (.ok (), f) := by
  cases answers with
  | nil => rfl
  | cons answer answers => exact if_pos rfl

/-- A call that was interrupted is made again. -/
theorem writeAll_interrupted {e : IoError} (hdata : data ≠ []) (he : e.kind = .interrupted) :
    f.writeAll (.error e :: answers) start data = f.writeAll answers start data := by
  have hnonempty : ¬data.isEmpty = true := by simpa using hdata
  exact (if_neg hnonempty).trans (if_pos he)

theorem writeAll_took {taken : Nat} (hdata : data ≠ []) (htaken : 0 < taken) :
    f.writeAll (.ok taken :: answers) start data =
      (f.write start (data.take taken)).writeAll answers (start + min taken data.length)
        (data.drop taken) := by
  have hnonempty : ¬data.isEmpty = true := by simpa using hdata
  exact (if_neg hnonempty).trans (if_neg (Nat.ne_of_gt htaken))

end

/-- A write that goes in pieces comes to the same as one at once. -/
theorem writeAll_getsOn {answers : List (Except IoError Nat)} (hanswers : GetsOn answers)
    (hf : f.toBytes = before ++ old ++ after) (hlength : old.length = data.length) :
    (f.writeAll answers before.length data).1 = .ok () ∧
      (f.writeAll answers before.length data).2.toBytes = before ++ data ++ after := by
  induction answers generalizing f before old data with
  | nil => exact ⟨rfl, toBytes_write hf hlength⟩
  | cons answer answers ih =>
    have hanswer := hanswers answer List.mem_cons_self
    have hrest : GetsOn answers := fun x hx => hanswers x (List.mem_cons_of_mem _ hx)
    by_cases hdata : data = []
    · subst hdata
      rw [List.length_eq_zero_iff.mp hlength] at hf
      rw [writeAll_nil]
      exact ⟨rfl, hf⟩
    · cases answer with
      | error e =>
        rw [writeAll_interrupted hdata hanswer]
        exact ih hrest hf hlength
      | ok taken =>
        -- What is overwritten is cut where the first piece ends.
        have hcut : f.toBytes = before ++ old.take taken ++ (old.drop taken ++ after) := by
          rw [hf, ← List.append_assoc, List.append_assoc before (old.take taken),
            List.take_append_drop]
        have hpiece : (old.take taken).length = (data.take taken).length := by
          rw [List.length_take, List.length_take, hlength]
        have hwritten := toBytes_write hcut hpiece
        rw [← List.append_assoc] at hwritten
        have hleft : (old.drop taken).length = (data.drop taken).length := by
          rw [List.length_drop, List.length_drop, hlength]
        have hlater := ih hrest hwritten hleft
        rw [List.length_append, List.length_take, List.append_assoc before,
          List.take_append_drop] at hlater
        rw [writeAll_took hdata hanswer]
        exact hlater

end File

/-- Everything that ends where a process has room can be mapped. -/
theorem Region.mapError?_file {f : File} {offset size : Word} {readonly : Bool}
    (hend : offset.toNat + size.toNat ≤ largestGap) :
    mapError? ⟨.file f, offset, size, readonly⟩ = none := by
  have hlast : lastPosition (.file f) = 0x7fffffffffffffff := rfl
  have hfile : (Descriptor.file f).file?.isNone = false := rfl
  have hpage : pageSize = 4096 := rfl
  have hgap : largestGap = 0x555555544000 := rfl
  rw [hgap] at hend
  unfold mapError?
  dsimp only
  rw [hlast, hfile, hpage, hgap]
  by_cases hempty : size = 0
  · rw [if_pos hempty]
  · rw [if_neg hempty, if_neg (by omega), if_neg (by omega), if_neg (by omega),
      if_neg Bool.false_ne_true]

/-- A plain array after a write at a place of it. One that does not fit is not made. -/
def Bytes.store (array : Bytes) (start : Nat) (data : Bytes) : Bytes :=
  if array.length < start + data.length then array
  else array.take start ++ data ++ array.drop (start + data.length)

theorem Bytes.store_of_lt {array data : Bytes} {start : Nat}
    (h : array.length < start + data.length) : array.store start data = array :=
  if_pos h

theorem Bytes.store_of_le {array data : Bytes} {start : Nat}
    (h : start + data.length ≤ array.length) :
    array.store start data = array.take start ++ data ++ array.drop (start + data.length) :=
  if_neg (Nat.not_lt_of_le h)

example : Bytes.store [0, 0, 0, 0] 1 [7, 8] = [0, 7, 8, 0] := rfl

theorem Bytes.store_all {array data : Bytes} (h : data.length = array.length) :
    array.store 0 data = data := by
  rw [store_of_le (by omega), Nat.zero_add, h, List.drop_length, List.take_zero, List.append_nil,
    List.nil_append]

@[simp] theorem Bytes.length_store (array : Bytes) (start : Nat) (data : Bytes) :
    (array.store start data).length = array.length := by
  unfold store
  split
  · rfl
  · simp only [List.length_append, List.length_take, List.length_drop]
    omega

namespace Arena.Allocation

/-- The visible range shows the array; the rest of the file is zero. -/
structure Holds (array : Bytes) (a : Allocation) : Prop where
  short : a.capacity.toNat ≤ Region.largestGap
  fits : a.offset.toNat + a.size.toNat ≤ a.capacity.toNat
  length : array.length = a.size.toNat
  toBytes : a.file.toBytes = List.replicate a.offset.toNat 0 ++ array ++
    List.replicate (a.capacity.toNat - (a.offset.toNat + a.size.toNat)) 0

variable {array : Bytes} {a : Allocation}

/-! ### How it is handed out -/

/-- A fresh file shows zeros. -/
theorem holds_zeros {offset size capacity : Word} (hshort : capacity.toNat ≤ Region.largestGap)
    (hfits : offset.toNat + size.toNat ≤ capacity.toNat) :
    Holds (List.replicate size.toNat 0) ⟨.zeros capacity.toNat, offset, size, capacity⟩ where
  short := hshort
  fits := hfits
  length := List.length_replicate
  toBytes := by
    show (File.zeros capacity.toNat).toBytes = List.replicate offset.toNat 0 ++ _ ++
      List.replicate (capacity.toNat - (offset.toNat + size.toNat)) 0
    rw [File.toBytes_zeros, List.replicate_append_replicate, List.replicate_append_replicate,
      Nat.add_sub_cancel' hfits]

/-- A fresh allocation shows zeros, and lies where it was asked for. -/
theorem holds_allocate {size : Word} {params : Params} {arena : Arena} {names : NameSpace}
    {rest : Arena × NameSpace} (h : arena.allocate size params names = (.ok a, rest)) :
    Holds (List.replicate size.toNat 0) a ∧ a.Placed arena.pageSize size params := by
  have hallocated := allocated_allocate size params arena names
  rw [h] at hallocated
  cases hallocated with
  | granted _ _ _ hplaced _ hmake =>
    obtain ⟨hfile, hshort⟩ := Storage.makeFile_ok hmake
    have hfits := hplaced.bounds.1
    have hzeros := holds_zeros hshort (Nat.le_of_add_right_le hfits)
    rw [← hfile] at hzeros
    refine ⟨?_, hplaced⟩
    rw [← hplaced.size]
    exact hzeros

/-! ### What it shows -/

theorem Holds.fileSize (h : Holds array a) : a.file.size = a.capacity.toNat := by
  have hlength := congrArg List.length h.toBytes
  have hfits := h.fits
  simp only [List.length_append, List.length_replicate, h.length, File.length_toBytes] at hlength
  omega

/-- What the holder sees is the array. -/
theorem Holds.view (h : Holds array a) : a.view = array := by
  have hbefore : (List.replicate a.offset.toNat (0 : UInt8)).length = a.offset.toNat :=
    List.length_replicate
  rw [Allocation.view, File.read_eq, Bytes.slice, h.toBytes, List.append_assoc,
    List.drop_left' hbefore, List.take_left' h.length]

theorem Holds.sliceError? (h : Holds array a) : a.sliceError? = none := by
  have hend : (0 : Word).toNat + a.capacity.toNat ≤ Region.largestGap := by
    rw [UInt64.toNat_zero, Nat.zero_add]
    exact h.short
  rw [Allocation.sliceError?, Region.mapError?_file hend, ite_self]

theorem Holds.slice (h : Holds array a) : a.slice = .ok array := by
  rw [Allocation.slice, h.sliceError?, h.view]

/-- A change through the mapping is made. -/
theorem Holds.inPlace (h : Holds array a) (change : Allocation → Allocation) :
    a.inPlace change = .ok (change a) := by
  rw [Allocation.inPlace, h.sliceError?]

/-- Whoever maps the region gets the array. -/
theorem Holds.toBytes_handOff (h : Holds array a) : a.handOff.toBytes = .ok array := by
  have hmap : a.handOff.mapError? = none :=
    Region.mapError?_file (Nat.le_trans h.fits h.short)
  have hcontents : a.handOff.contents = array := h.view
  rw [Region.toBytes, Region.map, hmap, hcontents]
  rfl

/-! ### Writing to it -/

/-- What the file holds before a place of the visible range. -/
def upTo (start : Nat) (array : Bytes) (a : Allocation) : Bytes :=
  List.replicate a.offset.toNat 0 ++ array.take start

/-- What the file holds from a place of the visible range on. -/
def fromOn (start : Nat) (array : Bytes) (a : Allocation) : Bytes :=
  array.drop start ++ List.replicate (a.capacity.toNat - (a.offset.toNat + a.size.toNat)) 0

section

variable {start count : Nat} {data : Bytes}

theorem Holds.length_upTo (h : Holds array a) (hstart : start ≤ a.size.toNat) :
    (a.upTo start array).length = a.offset.toNat + start := by
  rw [upTo, List.length_append, List.length_replicate, List.length_take, h.length,
    Nat.min_eq_left hstart]

/-- The file, cut at both ends of a part of the array. -/
theorem Holds.cut (h : Holds array a) (start count : Nat) :
    a.file.toBytes =
      a.upTo start array ++ array.slice start count ++ a.fromOn (start + count) array := by
  have hsplit : array.take start ++ (array.slice start count ++ array.drop (start + count)) =
      array := by
    rw [Bytes.slice, ← List.drop_drop, List.take_append_drop, List.take_append_drop]
  rw [h.toBytes, upTo, fromOn, List.append_assoc _ _ (array.slice start count),
    ← List.append_assoc _ (array.drop (start + count)), List.append_assoc _ _ (array.drop _),
    List.append_assoc (array.take start), hsplit]

/-- A file that differs by what was written holds the array that differs so. -/
theorem Holds.paste (h : Holds array a) {f : File} (hend : start + data.length ≤ a.size.toNat)
    (hf : f.toBytes = a.upTo start array ++ data ++ a.fromOn (start + data.length) array) :
    Holds (array.store start data) { a with file := f } where
  short := h.short
  fits := h.fits
  length := by rw [Bytes.length_store, h.length]
  toBytes := by
    have hend : start + data.length ≤ array.length := by rwa [h.length]
    show f.toBytes = _
    rw [hf, Bytes.store_of_le hend, upTo, fromOn]
    simp only [List.append_assoc]

/-- However the system cuts a write into pieces, it is made. -/
theorem Holds.writeAll (h : Holds array a) {answers : List (Except IoError Nat)}
    (hanswers : File.GetsOn answers) (hend : start + data.length ≤ a.size.toNat) :
    let written := a.file.writeAll answers (a.offset.toNat + start) data
    written.1 = .ok () ∧ Holds (array.store start data) { a with file := written.2 } := by
  have hlength : (array.slice start data.length).length = data.length := by
    rw [Bytes.slice, List.length_take, List.length_drop, h.length]
    omega
  obtain ⟨hok, hbytes⟩ := File.writeAll_getsOn hanswers (h.cut start data.length) hlength
  rw [h.length_upTo (Nat.le_of_add_right_le hend)] at hok hbytes
  exact ⟨hok, h.paste hend hbytes⟩

/-- A write to the file is a store to the array. -/
theorem Holds.write (h : Holds array a) (hend : start + data.length ≤ a.size.toNat) :
    Holds (array.store start data)
      { a with file := a.file.write (a.offset.toNat + start) data } :=
  (h.writeAll File.getsOn_nil hend).2

theorem Holds.poke (h : Holds array a) (start : Nat) (data : Bytes) :
    Holds (array.store start (data.take (array.length - start))) (a.poke start data) := by
  rw [h.length]
  rcases Nat.lt_or_ge a.size.toNat start with hbeyond | hstart
  · rw [Allocation.poke, Nat.sub_eq_zero_of_le (Nat.le_of_lt hbeyond), List.take_zero,
      Bytes.store_of_lt (by rw [h.length]; exact Nat.lt_add_right _ hbeyond)]
    exact h
  · refine h.write ?_
    rw [List.length_take]
    omega

theorem Holds.fill (h : Holds array a) (byte : UInt8) :
    Holds (List.replicate array.length byte) (a.fill byte) where
  short := h.short
  fits := h.fits
  length := by rw [List.length_replicate, h.length]; rfl
  toBytes := by
    have hlength : array.length = (Piece.run byte a.size.toNat).size := h.length
    have hfilled := File.toBytes_overwrite_between h.toBytes hlength
    rw [List.length_replicate] at hfilled
    rw [h.length]
    exact hfilled

variable {answers : List (Except IoError Nat)} {place : Word}

theorem Holds.size_lt_finish_iff (h : Holds array a) (hdata : data.length < 0x10000000000000000) :
    a.size < finish place data ↔ array.length < place.toNat + data.length := by
  have hgap : Region.largestGap = 0x555555544000 := rfl
  have hshort := Nat.le_trans h.fits h.short
  rw [Allocation.size_lt_finish_iff hdata (by omega), h.length]

/-- A write that would pass the end of the range changes nothing. -/
theorem Holds.writeAtWith_refused (h : Holds array a) (hdata : data.length < 0x10000000000000000)
    (hpast : array.length < place.toNat + data.length) :
    a.writeAtWith answers place data = (.error pastEnd, a) :=
  if_pos ((h.size_lt_finish_iff hdata).mpr hpast)

/-- A write that the system lets through in the end is made. -/
theorem Holds.writeAtWith_made (h : Holds array a) (hdata : data.length < 0x10000000000000000)
    (hanswers : File.GetsOn answers) (hfits : place.toNat + data.length ≤ array.length) :
    (a.writeAtWith answers place data).1 = .ok () ∧
      Holds (array.store place.toNat data) (a.writeAtWith answers place data).2 := by
  have hinside : ¬a.size < finish place data := by
    rw [h.size_lt_finish_iff hdata]
    exact Nat.not_lt_of_le hfits
  rw [Allocation.writeAtWith, if_neg hinside]
  rw [h.length] at hfits
  exact h.writeAll hanswers hfits

end

/-! ### Copies -/

section

variable {answers : List (Except IoError Nat)} {bytes : Bytes} {arena : Arena} {names : NameSpace}
  {rest : Arena × NameSpace}

/-- A copy is granted exactly if its visible range is, and shows what was copied. -/
theorem allocateCopyWith_of_allocate (hanswers : File.GetsOn answers)
    (hbytes : bytes.length < 0x10000000000000000)
    (h : arena.allocate (UInt64.ofNat bytes.length) {} names = (.ok a, rest)) :
    ∃ b, arena.allocateCopyWith answers bytes names = (.ok b, rest) ∧ Holds bytes b ∧
      b.offset = a.offset := by
  obtain ⟨hzeros, hplaced⟩ := holds_allocate h
  have hlength : a.size.toNat = bytes.length := by
    rw [hplaced.size, UInt64.toNat_ofNat_of_lt' hbytes]
  have hfits : 0 + bytes.length ≤ a.size.toNat := by omega
  obtain ⟨hok, hheld⟩ := hzeros.writeAll hanswers hfits
  rw [Bytes.store_all (by rw [hzeros.length, hlength])] at hheld
  have hwritten : a.file.writeAll answers a.offset.toNat bytes = (.ok (), _) := Prod.ext hok rfl
  refine ⟨_, ?_, hheld, rfl⟩
  rw [allocateCopyWith, h]
  dsimp only
  rw [hwritten]
  rfl

theorem allocateCopyWith_of_error {e : AllocationError}
    (h : arena.allocate (UInt64.ofNat bytes.length) {} names = (.error e, rest)) :
    arena.allocateCopyWith answers bytes names = (.error e, rest) := by
  rw [allocateCopyWith, h]

/-- A copy that is handed out holds what was copied. -/
theorem holds_allocateCopyWith (hanswers : File.GetsOn answers)
    (hbytes : bytes.length < 0x10000000000000000)
    (h : arena.allocateCopyWith answers bytes names = (.ok a, rest)) :
    Holds bytes a ∧ ∃ b, arena.allocate (UInt64.ofNat bytes.length) {} names = (.ok b, rest) ∧
      a.offset = b.offset := by
  cases hallocate : arena.allocate (UInt64.ofNat bytes.length) {} names with
  | mk result rest' =>
    cases result with
    | error e =>
      rw [allocateCopyWith_of_error hallocate] at h
      cases h
    | ok b =>
      obtain ⟨copy, hcopy, hheld, hsame⟩ := allocateCopyWith_of_allocate hanswers hbytes hallocate
      rw [hcopy] at h
      cases h
      exact ⟨hheld, b, rfl, hsame⟩

/-- Copying draws the names that allocating draws. -/
theorem allocateCopyWith_rest (hanswers : File.GetsOn answers)
    (hbytes : bytes.length < 0x10000000000000000) :
    (arena.allocateCopyWith answers bytes names).2 =
      (arena.allocate (UInt64.ofNat bytes.length) {} names).2 := by
  cases hallocate : arena.allocate (UInt64.ofNat bytes.length) {} names with
  | mk result rest =>
    cases result with
    | error e => rw [allocateCopyWith_of_error hallocate]
    | ok a =>
      obtain ⟨copy, hcopy, -⟩ := allocateCopyWith_of_allocate hanswers hbytes hallocate
      rw [hcopy]

end

end Arena.Allocation

end Framecast
