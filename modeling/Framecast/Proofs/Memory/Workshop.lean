import Framecast.Proofs.Memory.Contents
import Framecast.Proofs.Memory.Names

/-!
# Arenas at work

Several arenas of one process allocate and copy in any order, and what they handed out is written
to in between, while others change the tree of files. `Shows.step` says what one act does to the
visible bytes and `consecutive_step` which names it draws. So after any acts the allocations are
like plain arrays (`shows_plain_arrays`) and no name was drawn twice (`names_never_collide`).
-/

namespace Framecast

/-! ### Writes -/

namespace Arena.Allocation

/-- A write to the visible range of an allocation, through its file or in memory. -/
inductive Write where
  /-- The system answers so to the calls that it takes. -/
  | file (place : Word) (data : Bytes) (hdata : data.length < 0x10000000000000000)
      (answers : List (Except IoError Nat)) (hanswers : File.GetsOn answers)
  | poke (start : Nat) (data : Bytes)
  | fill (byte : UInt8)

namespace Write

/-- Change the bytes of an allocation through its mapping, if it can be mapped. -/
def inMemory (change : Allocation → Allocation) (a : Allocation) :
    Except IoError Unit × Allocation :=
  match a.inPlace change with
  | .error e => (.error e, a)
  | .ok b => (.ok (), b)

/-- One write to an allocation. -/
def apply (write : Write) (a : Allocation) : Except IoError Unit × Allocation :=
  match write with
  | .file place data _ answers _ => a.writeAtWith answers place data
  | .poke start data => inMemory (Allocation.poke start data) a
  | .fill byte => inMemory (Allocation.fill byte) a

/-- The same write to a plain array. -/
def plain (write : Write) (array : Bytes) : Bytes :=
  match write with
  | .file place data .. => array.store place.toNat data
  | .poke start data => array.store start (data.take (array.length - start))
  | .fill byte => List.replicate array.length byte

/-- Whether the write would end behind the array. Memory cannot be written to there at all. -/
def passesEnd (write : Write) (array : Bytes) : Prop :=
  match write with
  | .file place data .. => array.length < place.toNat + data.length
  | .poke .. | .fill _ => False

theorem inMemory_eq {array : Bytes} {a : Allocation} (h : Holds array a)
    (change : Allocation → Allocation) : inMemory change a = (.ok (), change a) := by
  rw [inMemory, h.inPlace]

variable {array : Bytes} {a : Allocation}

/-- Every write to an allocation is the same write to a plain array. -/
theorem holds_apply (write : Write) (h : Holds array a) :
    Holds (write.plain array) (write.apply a).2 := by
  cases write with
  | file place data hdata answers hanswers =>
    rcases Nat.lt_or_ge array.length (place.toNat + data.length) with hpast | hfits
    · rw [apply, h.writeAtWith_refused hdata hpast, plain, Bytes.store_of_lt hpast]
      exact h
    · exact (h.writeAtWith_made hdata hanswers hfits).2
  | poke start data =>
    rw [apply, inMemory_eq h]
    exact h.poke start data
  | fill byte =>
    rw [apply, inMemory_eq h]
    exact h.fill byte

/-- A write that would pass the end is refused and changes nothing. -/
theorem apply_of_passesEnd {write : Write} (h : Holds array a) (hpast : write.passesEnd array) :
    write.apply a = (.error pastEnd, a) := by
  cases write with
  | file place data hdata answers hanswers => exact h.writeAtWith_refused hdata hpast
  | poke | fill => exact hpast.elim

/-- A write within the array succeeds. -/
theorem apply_ok {write : Write} (h : Holds array a) (hinside : ¬write.passesEnd array) :
    (write.apply a).1 = .ok () := by
  cases write with
  | file place data hdata answers hanswers =>
    exact (h.writeAtWith_made hdata hanswers (Nat.le_of_not_lt hinside)).1
  | poke | fill =>
    rw [apply, inMemory_eq h]

/-- Writing does not move an allocation in its file. -/
theorem apply_place (write : Write) (a : Allocation) :
    ∃ file, (write.apply a).2 = { a with file := file } := by
  have hmemory (change : Allocation → Allocation)
      (hchange : ∃ file, change a = { a with file := file }) :
      ∃ file, (inMemory change a).2 = { a with file := file } := by
    rw [inMemory, inPlace]
    cases a.sliceError? with
    | some e => exact ⟨a.file, rfl⟩
    | none => exact hchange
  cases write with
  | file place data hdata answers hanswers =>
    rw [apply, writeAtWith]
    split
    · exact ⟨a.file, rfl⟩
    · exact ⟨_, rfl⟩
  | poke start data => exact hmemory _ ⟨_, rfl⟩
  | fill byte => exact hmemory _ ⟨_, rfl⟩

end Write

end Arena.Allocation

open Arena (Allocation AllocationError NameSpace Params)
open Arena.Allocation (Holds Write pastEnd)

/-! ### Acts -/

/-- The arenas of a process, what they draw names from, and what they handed out so far. -/
structure Workshop where
  arenas : List Arena
  names : NameSpace
  allocations : List Allocation := []

namespace Workshop

/-- What is done. Arenas and allocations are told by their numbers. -/
inductive Act where
  | allocate (arena : Nat) (size : Word) (params : Params)
  | copy (arena : Nat) (bytes : Bytes) (hbytes : bytes.length < 0x10000000000000000)
      (answers : List (Except IoError Nat)) (hanswers : File.GetsOn answers)
  | write (allocation : Nat) (how : Write)
  /-- Others change the tree of files. -/
  | elsewhere (files : FileTree)

/-- Ask an arena for an allocation. -/
def request (arena : Nat)
    (ask : Arena → NameSpace → Except AllocationError Allocation × Arena × NameSpace)
    (w : Workshop) : Except IoError Unit × Workshop :=
  match w.arenas[arena]? with
  | none => (.error .notFound, w)
  | some a =>
    match ask a w.names with
    | (.error e, a, names) =>
      (.error e.cause, { w with arenas := w.arenas.set arena a, names := names })
    | (.ok allocation, a, names) =>
      (.ok (), ⟨w.arenas.set arena a, names, w.allocations ++ [allocation]⟩)

/-- Write to an allocation. -/
def use (allocation : Nat) (write : Write) (w : Workshop) : Except IoError Unit × Workshop :=
  match w.allocations[allocation]? with
  | none => (.error .notFound, w)
  | some a =>
    let (result, a) := write.apply a
    (result, { w with allocations := w.allocations.set allocation a })

/-- One thing done in a workshop, and how it ended. -/
def step (act : Act) (w : Workshop) : Except IoError Unit × Workshop :=
  match act with
  | .allocate arena size params => w.request arena (Arena.allocate size params)
  | .copy arena bytes _ answers _ => w.request arena (Arena.allocateCopyWith answers bytes)
  | .write allocation write => w.use allocation write
  | .elsewhere files => (.ok (), { w with names := { w.names with files := files } })

/-- A workshop after some things were done in it. -/
def after (acts : List Act) (w : Workshop) : Workshop :=
  acts.foldl (fun w act => (w.step act).2) w

/-- All that asking an arena can come to. -/
inductive Requested (arena : Nat)
    (ask : Arena → NameSpace → Except AllocationError Allocation × Arena × NameSpace)
    (w : Workshop) : Except IoError Unit × Workshop → Prop
  | unknown (h : w.arenas[arena]? = none) : Requested arena ask w (.error .notFound, w)
  | denied {a a' : Arena} {e : AllocationError} {names : NameSpace}
      (h : w.arenas[arena]? = some a) (hask : ask a w.names = (.error e, a', names)) :
      Requested arena ask w
        (.error e.cause, { w with arenas := w.arenas.set arena a', names := names })
  | granted {a a' : Arena} {b : Allocation} {names : NameSpace}
      (h : w.arenas[arena]? = some a) (hask : ask a w.names = (.ok b, a', names)) :
      Requested arena ask w (.ok (), ⟨w.arenas.set arena a', names, w.allocations ++ [b]⟩)

/-- What a request comes to, case by case. -/
theorem requested_request (arena : Nat)
    (ask : Arena → NameSpace → Except AllocationError Allocation × Arena × NameSpace)
    (w : Workshop) : Requested arena ask w (w.request arena ask) := by
  rw [request]
  cases ha : w.arenas[arena]? with
  | none => exact .unknown ha
  | some a =>
    rcases hask : ask a w.names with ⟨_ | _, a', names⟩
    · dsimp only
      rw [hask]
      exact .denied ha hask
    · dsimp only
      rw [hask]
      exact .granted ha hask

/-- The acts, each with its answer. -/
def answered : List Act → Workshop → List (Act × Except IoError Unit)
  | [], _ => []
  | act :: acts, w => (act, (w.step act).1) :: answered acts (w.step act).2

/-- The allocation that an act writes to. -/
def Act.written? : Act → Option Nat
  | .write allocation _ => some allocation
  | _ => none

/-- There is one more array if it was granted. -/
def grant (answer : Except IoError Unit) (array : Bytes) (arrays : List Bytes) : List Bytes :=
  match answer with
  | .ok () => arrays ++ [array]
  | .error _ => arrays

/-- What an act with this answer does to plain arrays. -/
def Act.plain (act : Act) (answer : Except IoError Unit) (arrays : List Bytes) : List Bytes :=
  match act with
  | .allocate _ size _ => grant answer (List.replicate size.toNat 0) arrays
  | .copy _ bytes .. => grant answer bytes arrays
  | .write allocation how => arrays.modify allocation how.plain
  | .elsewhere _ => arrays

/-- What plain arrays hold after the same was done to them. -/
def plainArrays (done : List (Act × Except IoError Unit)) (arrays : List Bytes) : List Bytes :=
  done.foldl (fun arrays (act, answer) => act.plain answer arrays) arrays

/-! ### What allocations show -/

/-- Every allocation shows the array of the same number. -/
structure Shows (arrays : List Bytes) (allocations : List Allocation) : Prop where
  length : allocations.length = arrays.length
  holds : ∀ (i : Nat) (a : Allocation) (array : Bytes), allocations[i]? = some a →
    arrays[i]? = some array → Holds array a

namespace Shows

variable {arrays : List Bytes} {allocations : List Allocation} {w : Workshop}

theorem concat (h : Shows arrays allocations) {array : Bytes} {a : Allocation}
    (ha : Holds array a) : Shows (arrays ++ [array]) (allocations ++ [a]) where
  length := by rw [List.length_append, List.length_append, h.length]; rfl
  holds := by
    intro i b other hb hother
    rcases Nat.lt_trichotomy i arrays.length with hlt | rfl | hgt
    · rw [List.getElem?_append_left (by rw [h.length]; exact hlt)] at hb
      rw [List.getElem?_append_left hlt] at hother
      exact h.holds i b other hb hother
    · rw [← h.length, List.getElem?_concat_length] at hb
      rw [List.getElem?_concat_length] at hother
      cases hb
      cases hother
      exact ha
    · rw [List.getElem?_eq_none (by rw [List.length_append]; exact hgt)] at hother
      cases hother

theorem use (h : Shows arrays w.allocations) (allocation : Nat) (write : Write) :
    Shows (arrays.modify allocation write.plain) (w.use allocation write).2.allocations := by
  rw [Workshop.use]
  cases hused : w.allocations[allocation]? with
  | none =>
    have hbeyond : arrays.length ≤ allocation := by
      rw [← h.length]
      exact List.getElem?_eq_none_iff.mp hused
    rw [List.modify_eq_self hbeyond]
    exact h
  | some a =>
    refine ⟨?_, ?_⟩
    · show (w.allocations.set allocation (write.apply a).2).length = _
      rw [List.length_set, List.length_modify, h.length]
    · intro i b array hb harray
      change (w.allocations.set allocation (write.apply a).2)[i]? = some b at hb
      rw [List.getElem?_modify, Option.map_eq_map, Option.map_eq_some_iff] at harray
      obtain ⟨before, hbefore, hchanged⟩ := harray
      by_cases hi : allocation = i
      · subst hi
        rw [if_pos rfl] at hchanged
        rw [List.getElem?_set_self' , hused] at hb
        cases hb
        rw [← hchanged]
        exact Write.holds_apply write (h.holds _ a before hused hbefore)
      · rw [if_neg hi] at hchanged
        rw [List.getElem?_set_ne hi] at hb
        rw [← hchanged]
        exact h.holds i b before hb hbefore

theorem request (h : Shows arrays w.allocations) (arena : Nat) {array : Bytes}
    {ask : Arena → NameSpace → Except AllocationError Allocation × Arena × NameSpace}
    (hask : ∀ a names b rest, ask a names = (.ok b, rest) → Holds array b) :
    Shows (grant (w.request arena ask).1 array arrays) (w.request arena ask).2.allocations := by
  have hrequested := requested_request arena ask w
  generalize w.request arena ask = outcome at hrequested ⊢
  cases hrequested with
  | unknown | denied => exact h
  | granted _ hgranted => exact h.concat (hask _ _ _ _ hgranted)

/-- Whatever is done, allocations and arrays stay alike. -/
theorem step (h : Shows arrays w.allocations) (act : Act) :
    Shows (act.plain (w.step act).1 arrays) (w.step act).2.allocations := by
  cases act with
  | allocate arena size params =>
    exact h.request arena fun _ _ _ _ hgranted => (Allocation.holds_allocate hgranted).1
  | copy arena bytes hbytes answers hanswers =>
    exact h.request arena fun _ _ _ _ hgranted =>
      (Allocation.holds_allocateCopyWith hanswers hbytes hgranted).1
  | write allocation how => exact h.use allocation how
  | elsewhere files => exact h

/-- In every run, allocations show what plain arrays would hold. -/
theorem run (h : Shows arrays w.allocations) (acts : List Act) :
    Shows (plainArrays (w.answered acts) arrays) (w.after acts).allocations := by
  induction acts generalizing w arrays with
  | nil => exact h
  | cons act acts ih => exact ih (h.step act)

end Shows

variable {w : Workshop}

/-! ### What an act leaves as it is -/

/-- Only the allocation that is written to can change. -/
theorem step_keeps {i : Nat} {a : Allocation} (h : w.allocations[i]? = some a) {act : Act}
    (hother : act.written? ≠ some i) : (w.step act).2.allocations[i]? = some a := by
  have hrequest (arena : Nat)
      (ask : Arena → NameSpace → Except AllocationError Allocation × Arena × NameSpace) :
      (w.request arena ask).2.allocations[i]? = some a := by
    have hrequested := requested_request arena ask w
    generalize w.request arena ask = outcome at hrequested ⊢
    cases hrequested with
    | unknown | denied => exact h
    | granted _ _ =>
      show (w.allocations ++ [_])[i]? = some a
      rw [List.getElem?_append_left (List.getElem?_eq_some_iff.mp h).1, h]
  cases act with
  | allocate arena size params => exact hrequest arena _
  | copy arena bytes hbytes answers hanswers => exact hrequest arena _
  | write j how =>
    have hne : j ≠ i := fun heq => hother (congrArg some heq)
    show (w.use j how).2.allocations[i]? = some a
    rw [use]
    cases w.allocations[j]? with
    | none => exact h
    | some b =>
      show (w.allocations.set j (how.apply b).2)[i]? = some a
      rw [List.getElem?_set_ne hne, h]
  | elsewhere files => exact h

theorem step_write {i : Nat} {a : Allocation} (h : w.allocations[i]? = some a) (how : Write) :
    w.step (.write i how) =
      ((how.apply a).1, { w with allocations := w.allocations.set i (how.apply a).2 }) := by
  show w.use i how = _
  rw [use, h]

/-- **Writes stay inside the visible range.** After any acts of any arenas, every allocation shows
what a plain array holds that began as zeros, or as the bytes that were copied, and was written to
in the same way: in the file, where all bytes around it are zero, in memory, and to whoever maps the
region that it is handed off as. A write that would end behind the range, be that beyond the last
word, is refused and changes nothing; every other one is made. No allocation changes unless it is
written to, and none is moved in its file. -/
theorem shows_plain_arrays (arenas : List Arena) (names : NameSpace) (acts : List Act) :
    let start : Workshop := { arenas := arenas, names := names }
    let w := start.after acts
    let arrays := plainArrays (start.answered acts) []
    pastEnd.kind = .invalidInput ∧ w.allocations.length = arrays.length ∧
    ∀ (i : Nat) (a : Allocation) (array : Bytes),
      w.allocations[i]? = some a → arrays[i]? = some array →
      array.length = a.size.toNat ∧
      a.file.toBytes = List.replicate a.offset.toNat 0 ++ array ++
        List.replicate (a.capacity.toNat - (a.offset.toNat + a.size.toNat)) 0 ∧
      a.slice = .ok array ∧ a.handOff.toBytes = .ok array ∧
      (∀ how : Write,
        (how.passesEnd array → w.step (.write i how) = (.error pastEnd, w)) ∧
        (¬how.passesEnd array → (w.step (.write i how)).1 = .ok ()) ∧
        ∃ file, (w.step (.write i how)).2.allocations[i]? = some { a with file := file }) ∧
      ∀ act : Act, act.written? ≠ some i → (w.step act).2.allocations[i]? = some a := by
  intro start w arrays
  have hempty : Shows [] start.allocations :=
    ⟨rfl, fun _ _ _ hnone => nomatch hnone⟩
  have hshows : Shows arrays w.allocations := hempty.run acts
  refine ⟨rfl, hshows.length, ?_⟩
  intro i a array ha harray
  have hheld := hshows.holds i a array ha harray
  refine ⟨hheld.length, hheld.toBytes, hheld.slice, hheld.toBytes_handOff, ?_,
    fun act hother => step_keeps ha hother⟩
  intro how
  obtain ⟨hi, hitem⟩ := List.getElem?_eq_some_iff.mp ha
  obtain ⟨file, hfile⟩ := how.apply_place a
  rw [step_write ha]
  refine ⟨?_, Write.apply_ok hheld, file, ?_⟩
  · intro hpast
    have hsame : w.allocations.set i a = w.allocations := by
      rw [← hitem]
      exact List.set_getElem_self hi
    rw [Write.apply_of_passesEnd hheld hpast, hsame]
  · rw [← hfile]
    exact List.getElem?_set_self hi

/-! ### Which names are drawn -/

/-- The attempts to make a file for an allocation. -/
def attemptsFor (arena : Nat) (size : Word) (params : Params) (w : Workshop) :
    List NameSpace.Attempt :=
  match w.arenas[arena]? with
  | none => []
  | some a => a.attempts size params w.names

/-- The names that are tried in the course of an act. -/
def Act.attempts (act : Act) (w : Workshop) : List NameSpace.Attempt :=
  match act with
  | .allocate arena size params => w.attemptsFor arena size params
  | .copy arena bytes .. => w.attemptsFor arena (UInt64.ofNat bytes.length) {}
  | .write .. | .elsewhere _ => []

/-- All attempts to make files, in order. -/
def attempts : List Act → Workshop → List NameSpace.Attempt
  | [], _ => []
  | act :: acts, w => act.attempts w ++ attempts acts (w.step act).2

theorem names_use (allocation : Nat) (write : Write) (w : Workshop) :
    (w.use allocation write).2.names = w.names := by
  rw [use]
  cases w.allocations[allocation]? <;> rfl

theorem consecutive_request (arena : Nat) {size : Word} {params : Params}
    {ask : Arena → NameSpace → Except AllocationError Allocation × Arena × NameSpace}
    (hask : ∀ a names, (ask a names).2 = (a.allocate size params names).2) (w : Workshop) :
    NameSpace.Consecutive w.names.counter (w.request arena ask).2.names.counter
      (w.attemptsFor arena size params) := by
  have hrequested := requested_request arena ask w
  generalize w.request arena ask = outcome at hrequested ⊢
  cases hrequested with
  | unknown h =>
    rw [attemptsFor, h]
    exact .nil w.names.counter
  | @denied a _ _ _ h hasked | @granted a _ _ _ h hasked =>
    have hdrawn := Arena.consecutive_attempts size params a w.names
    rw [← hask, hasked] at hdrawn
    rw [attemptsFor, h]
    exact hdrawn

theorem consecutive_step (act : Act) (w : Workshop) :
    NameSpace.Consecutive w.names.counter (w.step act).2.names.counter (act.attempts w) := by
  cases act with
  | allocate arena size params => exact consecutive_request arena (fun _ _ => rfl) w
  | copy arena bytes hbytes answers hanswers =>
    exact consecutive_request arena
      (fun _ _ => Allocation.allocateCopyWith_rest hanswers hbytes) w
  | write allocation how =>
    show NameSpace.Consecutive _ (w.use allocation how).2.names.counter _
    rw [names_use]
    exact .nil w.names.counter
  | elsewhere files => exact .nil w.names.counter

/-- A run takes consecutive numbers. -/
theorem consecutive_after (acts : List Act) (w : Workshop) :
    NameSpace.Consecutive w.names.counter (w.after acts).names.counter (w.attempts acts) := by
  induction acts generalizing w with
  | nil => exact .nil w.names.counter
  | cons act acts ih => exact (consecutive_step act w).append (ih (w.step act).2)

theorem entries_request (arena : Nat) {size : Word} {params : Params}
    {ask : Arena → NameSpace → Except AllocationError Allocation × Arena × NameSpace}
    (hask : ∀ a names, (ask a names).2 = (a.allocate size params names).2) (w : Workshop) :
    (w.request arena ask).2.names.files.entries = w.names.files.entries := by
  have hrequested := requested_request arena ask w
  generalize w.request arena ask = outcome at hrequested ⊢
  cases hrequested with
  | unknown => rfl
  | @denied a _ _ _ _ hasked | @granted a _ _ _ _ hasked =>
    have hentries := Arena.entries_allocate size params a w.names
    rw [← hask, hasked] at hentries
    exact hentries

/-- Only others change what there is in the tree of files. -/
theorem entries_step {act : Act} (hours : ∀ files, act ≠ .elsewhere files) (w : Workshop) :
    (w.step act).2.names.files.entries = w.names.files.entries := by
  cases act with
  | allocate arena size params => exact entries_request arena (fun _ _ => rfl) w
  | copy arena bytes hbytes answers hanswers =>
    exact entries_request arena (fun _ _ => Allocation.allocateCopyWith_rest hanswers hbytes) w
  | write allocation how =>
    show (w.use allocation how).2.names.files.entries = _
    rw [names_use]
  | elsewhere files => exact absurd rfl (hours files)

/-- **Names never collide.** Whatever arenas ask for in whatever order, and whatever others do to
the tree in between: the attempts to make files draw consecutive numbers, so that no two of them
draw the same, nor the same word until all words were drawn, nor use the same path. Making a file
takes the first free name among the next sixteen and draws no number behind it; it fails because a
name exists exactly if all sixteen do, and for no other reason in a directory that takes files. The
arena counts the files that were made. Nothing in the tree is added, removed or changed by it. -/
theorem names_never_collide (w : Workshop) (acts : List Act) :
    let tried := w.attempts acts
    let s := (w.after acts).names
    tried.map NameSpace.Attempt.number = List.range' w.names.counter tried.length ∧
    s.counter = w.names.counter + tried.length ∧
    (tried.map NameSpace.Attempt.number).Nodup ∧
    (tried.length ≤ 0x10000000000000000 →
      (tried.map fun a => UInt64.ofNat a.number).Nodup) ∧
    (tried.map NameSpace.Attempt.path).Nodup ∧
    (∀ act : Act, (∀ files, act ≠ .elsewhere files) →
      ((w.after acts).step act).2.names.files.entries = s.files.entries) ∧
    ∀ (arena : Arena) (size : Word) (params : Params),
      let created := s.createUnlinked arena.directory arena.stem
      NameSpace.Creation arena.directory arena.stem s 16 created ∧
      ((∃ e, created.1 = .error e ∧ e.kind = .alreadyExists) ↔
        ∀ j < 16, s.Taken arena.directory arena.stem (s.counter + j)) ∧
      (s.Open arena.directory arena.stem →
        created.1 = .ok () ∨ created.1 = .error .alreadyExists) ∧
      (arena.allocate size params s).2 =
        match Arena.layout? arena.pageMask size params with
        | none => (arena, s)
        | some _ =>
          ({ arena with allocations := arena.allocations + if created.1.isOk then 1 else 0 },
            created.2) := by
  intro tried s
  have hdrawn : NameSpace.Consecutive w.names.counter s.counter tried := consecutive_after acts w
  refine ⟨hdrawn.numbers, hdrawn.last, hdrawn.nodup_numbers, hdrawn.nodup_words,
    hdrawn.nodup_paths, fun act hours => entries_step hours (w.after acts), ?_⟩
  intro arena size params created
  have hcreation := NameSpace.creation_createUnlinked arena.directory arena.stem s
  exact ⟨hcreation, hcreation.alreadyExists_iff, fun hopen => hopen.made_or_exhausted hcreation,
    Arena.allocate_rest size params arena s⟩

end Workshop

end Framecast
