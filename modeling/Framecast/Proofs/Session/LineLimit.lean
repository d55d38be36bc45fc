import Framecast.Proofs.Stream.Pieces
import Framecast.Session.Line

/-!
# The limit on a line

Whether a line that is longer than the limit is taken depends on the pieces in which it arrives. A
piece without a line break is held against the limit, the piece with the line break is not: what
counts is where that piece starts. `read_splits` says what every split of a stream comes to, and for
which lines some split differs from the others.
-/

namespace Framecast.Line

/-- The bytes before the first line break. -/
def firstLine (bytes : Bytes) : Bytes :=
  bytes.takeWhile (· ≠ newline)

theorem firstLine_append_of_not_mem {bytes : Bytes} (h : newline ∉ bytes) (more : Bytes) :
    firstLine (bytes ++ more) = bytes ++ firstLine more := by
  apply List.takeWhile_append_of_pos
  intro b hb
  apply decide_eq_true
  rintro rfl
  exact h hb

theorem firstLine_append_of_mem {bytes : Bytes} (h : newline ∈ bytes) (more : Bytes) :
    firstLine (bytes ++ more) = firstLine bytes ∧ (firstLine bytes).length < bytes.length := by
  induction bytes with
  | nil => cases h
  | cons b rest ih =>
    by_cases hb : b = newline
    · subst hb
      exact ⟨rfl, Nat.succ_pos _⟩
    · obtain ⟨heq, hlt⟩ := ih ((List.mem_cons.mp h).resolve_left (Ne.symm hb))
      have hcons (bytes : Bytes) : firstLine (b :: bytes) = b :: firstLine bytes :=
        List.takeWhile_cons_of_pos (decide_eq_true hb)
      rw [List.cons_append, hcons, hcons, heq]
      exact ⟨rfl, Nat.succ_lt_succ hlt⟩

variable {turns : List Turn} {limit : Nat} {line : Bytes} {unread : Stretch}

/-- What one piece does to a line. -/
theorem readFrom_piece {s s' : Source} {piece : Stretch} (hne : piece ≠ [])
    (hreceive : Source.receiver chunkSize s = (.ok piece.arrival, s')) (limit : Nat)
    (patience : Duration) (line : Bytes) (descriptors : List Descriptor) :
    readFrom Source.receiver limit patience line descriptors s =
      let longer := line ++ piece.bytes
      let received := descriptors ++ piece.descriptors
      if newline ∈ longer then ((.ok (longer.takeWhile (· ≠ newline)), received), s')
      else if limit < longer.length then ((.error (.refused (.tooLong limit)), received), s')
      else readFrom Source.receiver limit patience longer received s' := by
  have hbytes : piece.bytes ≠ [] := fun h => hne (Stretch.bytes_eq_nil_iff.mp h)
  rw [readFrom, bind_apply, hreceive]
  dsimp only [Stretch.arrival]
  rw [dif_neg hbytes]
  by_cases hbreak : newline ∈ line ++ piece.bytes
  · rw [if_pos hbreak, if_pos (List.contains_iff_mem.mpr hbreak)]
    rfl
  · rw [if_neg hbreak, if_neg (fun h => hbreak (List.contains_iff_mem.mp h))]
    by_cases hlarge : limit < (line ++ piece.bytes).length
    · rw [dif_pos hlarge, if_pos hlarge]
      rfl
    · rw [dif_neg hlarge, if_neg hlarge]

/-- What a stream comes to when there is no more of it. -/
theorem readFrom_end (hturns : Flowing turns) (closed : Bool) (limit : Nat) (patience : Duration)
    (line : Bytes) (descriptors : List Descriptor) :
    (readFrom Source.receiver limit patience line descriptors ⟨[], closed, turns⟩).1.1 =
      .error (if closed then .refused .closedEarly else .timedOut patience) := by
  obtain ⟨later, hreceive⟩ := Source.receiver_at_end chunkSize hturns closed
  rw [readFrom, bind_apply, hreceive]
  cases closed <;> rfl

/-- Without a line break only the length counts. -/
theorem readFrom_unbroken {turns : List Turn} {line : Bytes} {unread : Stretch}
    (hbreak : newline ∉ unread.bytes) (hle : line.length ≤ limit) (hline : newline ∉ line)
    (hturns : Flowing turns) (closed : Bool) (patience : Duration)
    (descriptors : List Descriptor) :
    (readFrom Source.receiver limit patience line descriptors ⟨unread, closed, turns⟩).1.1 =
      .error (if limit < line.length + unread.length then .refused (.tooLong limit)
        else if closed then .refused .closedEarly else .timedOut patience) := by
  induction hn : unread.length using Nat.strongRecOn generalizing turns line unread descriptors with
  | ind n ih =>
  subst hn
  by_cases hnil : unread = []
  · subst hnil
    have hshort : ¬ limit < line.length + ([] : Stretch).length := Nat.not_lt.mpr hle
    rw [readFrom_end hturns, if_neg hshort]
  · obtain ⟨piece, rest, later, rfl, hpiece, hlater, hreceive, -⟩ :=
      Source.receiver_brings (by decide : 0 < chunkSize) hturns hnil closed
    have hpos := List.length_pos_iff.mpr hpiece
    have hlength : (line ++ piece.bytes).length + rest.length =
        line.length + (piece ++ rest).length := by
      rw [List.length_append, List.length_append, Stretch.length_bytes, Nat.add_assoc]
    rw [Stretch.bytes_append, List.mem_append, not_or] at hbreak
    have hlonger : newline ∉ line ++ piece.bytes := by
      rw [List.mem_append, not_or]
      exact ⟨hline, hbreak.1⟩
    rw [readFrom_piece hpiece hreceive]
    dsimp only
    rw [if_neg hlonger, ← hlength]
    split
    · rename_i hlarge
      rw [if_pos (Nat.lt_add_right _ hlarge)]
    · rename_i hsmall
      exact ih rest.length (by rw [List.length_append]; omega) hbreak.2 (Nat.not_lt.mp hsmall)
        hlonger hlater _ rfl

/-- With a line break it counts where the piece starts that brings it. -/
theorem readFrom_broken {turns : List Turn} {line : Bytes} {unread : Stretch}
    (hbreak : newline ∈ unread.bytes) (hle : line.length ≤ limit) (hline : newline ∉ line)
    (hturns : Flowing turns) (closed : Bool) (patience : Duration)
    (descriptors : List Descriptor) :
    (readFrom Source.receiver limit patience line descriptors ⟨unread, closed, turns⟩).1.1 =
      if limit < line.length + pieceStart chunkSize turns (firstLine unread.bytes).length then
        .error (.refused (.tooLong limit))
      else .ok (line ++ firstLine unread.bytes) := by
  induction hn : unread.length using Nat.strongRecOn generalizing turns line unread descriptors with
  | ind n ih =>
  subst hn
  have hnil : unread ≠ [] := by
    rintro rfl
    cases hbreak
  have hplace : (firstLine unread.bytes).length < unread.length := by
    rw [← Stretch.length_bytes]
    exact (firstLine_append_of_mem hbreak []).2
  obtain ⟨piece, rest, later, rfl, hpiece, hlater, hreceive, hstart⟩ :=
    Source.receiver_brings (by decide : 0 < chunkSize) hturns hnil closed
  have hpos := List.length_pos_iff.mpr hpiece
  have hlength := Stretch.length_bytes piece
  have hstart := hstart _ hplace
  rw [Stretch.bytes_append] at hstart ⊢
  rw [readFrom_piece hpiece hreceive]
  dsimp only
  by_cases hfirst : newline ∈ piece.bytes
  · obtain ⟨heq, hshort⟩ := firstLine_append_of_mem hfirst rest.bytes
    rw [heq, if_pos (hlength ▸ hshort)] at hstart
    rw [if_pos (List.mem_append_right _ hfirst), heq, hstart, Nat.add_zero,
      if_neg (Nat.not_lt.mpr hle)]
    exact congrArg Except.ok (firstLine_append_of_not_mem hline _)
  · have hrest : newline ∈ rest.bytes := by
      rw [Stretch.bytes_append, List.mem_append] at hbreak
      exact hbreak.resolve_left hfirst
    have hlonger : newline ∉ line ++ piece.bytes := by
      rw [List.mem_append, not_or]
      exact ⟨hline, hfirst⟩
    have hboth : (line ++ piece.bytes).length = line.length + piece.length := by
      rw [List.length_append, hlength]
    rw [firstLine_append_of_not_mem hfirst, List.length_append, hlength,
      if_neg (Nat.not_lt.mpr (Nat.le_add_right ..)), Nat.add_sub_cancel_left] at hstart
    rw [if_neg hlonger, hboth, firstLine_append_of_not_mem hfirst, List.length_append, hlength,
      hstart, ← Nat.add_assoc]
    split
    · rename_i hlarge
      rw [if_pos (Nat.lt_add_right _ hlarge)]
    · rename_i hsmall
      have hread := ih rest.length (by rw [List.length_append]; omega) hrest
        (hboth ▸ Nat.not_lt.mp hsmall) hlonger hlater (descriptors ++ piece.descriptors) rfl
      rw [hboth, List.append_assoc] at hread
      exact hread

section Splits

variable {stream : Stretch} {closed : Bool} {patience : Duration}

/-- What becomes of a stream without a line end. -/
theorem read_of_not_mem (hbreak : newline ∉ stream.bytes) (hturns : Flowing turns) (closed : Bool)
    (limit : Nat) (patience : Duration) :
    (read Source.receiver limit patience ⟨stream, closed, turns⟩).1.1 =
      .error (if limit < stream.length then .refused (.tooLong limit)
        else if closed then .refused .closedEarly else .timedOut patience) := by
  have hread := readFrom_unbroken hbreak (Nat.zero_le limit) List.not_mem_nil hturns closed
    patience []
  rw [List.length_nil, Nat.zero_add] at hread
  exact hread

variable (hbreak : newline ∈ stream.bytes)
include hbreak

/-- A line is read unless too much had come before its last piece. -/
theorem read_of_mem (hturns : Flowing turns) (closed : Bool) (limit : Nat) (patience : Duration) :
    (read Source.receiver limit patience ⟨stream, closed, turns⟩).1.1 =
      if limit < pieceStart chunkSize turns (firstLine stream.bytes).length then
        .error (.refused (.tooLong limit))
      else .ok (firstLine stream.bytes) := by
  have hread := readFrom_broken hbreak (Nat.zero_le limit) List.not_mem_nil hturns closed
    patience []
  rw [List.length_nil, Nat.zero_add] at hread
  exact hread

/-- A line is accepted exactly if the piece that ends it begins within the limit. -/
theorem read_ok_iff (hturns : Flowing turns) :
    (read Source.receiver limit patience ⟨stream, closed, turns⟩).1.1 =
      .ok (firstLine stream.bytes) ↔
        pieceStart chunkSize turns (firstLine stream.bytes).length ≤ limit := by
  rw [read_of_mem hbreak hturns]
  split
  · rename_i hlarge
    exact iff_of_false nofun (Nat.not_le.mpr hlarge)
  · rename_i hsmall
    exact iff_of_true rfl (Nat.not_lt.mp hsmall)

theorem read_tooLong (hturns : Flowing turns)
    (h : (read Source.receiver limit patience ⟨stream, closed, turns⟩).1.1 ≠
      .ok (firstLine stream.bytes)) :
    (read Source.receiver limit patience ⟨stream, closed, turns⟩).1.1 =
      .error (.refused (.tooLong limit)) := by
  have hread := read_of_mem hbreak hturns closed limit patience
  split at hread
  · exact hread
  · exact absurd hread h

/-- The strictest split brings single bytes. -/
theorem all_taken_iff :
    (∀ turns, Flowing turns →
      (read Source.receiver limit patience ⟨stream, closed, turns⟩).1.1 =
        .ok (firstLine stream.bytes)) ↔ (firstLine stream.bytes).length ≤ limit := by
  have hsize : 0 < chunkSize := by decide
  constructor
  · intro htaken
    have hsingles := flowing_replicate (firstLine stream.bytes).length 0
    have hstart := (read_ok_iff hbreak hsingles).mp (htaken _ hsingles)
    rw [pieceStart_latest hsize] at hstart
    exact hstart
  · intro hle turns hturns
    exact (read_ok_iff hbreak hturns).mpr (Nat.le_trans (pieceStart_bounds hsize turns _).1 hle)

/-- The most lenient split brings the line break as the last byte of a whole piece. -/
theorem some_taken_iff :
    (∃ turns, Flowing turns ∧
      (read Source.receiver limit patience ⟨stream, closed, turns⟩).1.1 =
        .ok (firstLine stream.bytes)) ↔
      (firstLine stream.bytes).length < limit + chunkSize := by
  have hsize : 0 < chunkSize := by decide
  constructor
  · rintro ⟨turns, hturns, htaken⟩
    have hstart := (read_ok_iff hbreak hturns).mp htaken
    have hbound := (pieceStart_bounds hsize turns (firstLine stream.bytes).length).2
    omega
  · intro hlt
    have hsingles := flowing_replicate ((firstLine stream.bytes).length + 1 - chunkSize) 0
    refine ⟨_, hsingles, (read_ok_iff hbreak hsingles).mpr ?_⟩
    rw [pieceStart_earliest hsize]
    omega

end Splits

/-- **How far the limit holds.** A stream comes to its first line in some pieces exactly if the
piece that brings the line break starts within the limit; else the line is too long. A stream
without a line break is too long or ended early, in any pieces. So a line within the limit is taken
in all splits, one that is at least a piece longer is taken in none, and for those between them it
depends on the split. -/
theorem read_splits (stream : Stretch) (closed : Bool) (limit : Nat) (patience : Duration) :
    let outcome (turns : List Turn) :=
      (read Source.receiver limit patience ⟨stream, closed, turns⟩).1.1
    let line := firstLine stream.bytes
    (∀ turns, Flowing turns →
      pieceStart chunkSize turns line.length ≤ line.length ∧
      line.length < pieceStart chunkSize turns line.length + chunkSize ∧
      (newline ∈ stream.bytes → outcome turns =
        if limit < pieceStart chunkSize turns line.length then .error (.refused (.tooLong limit))
        else .ok line) ∧
      (newline ∉ stream.bytes → outcome turns = .error (
        if limit < stream.length then .refused (.tooLong limit)
        else if closed then .refused .closedEarly else .timedOut patience))) ∧
    (newline ∈ stream.bytes →
      ((∀ turns, Flowing turns → outcome turns = .ok line) ↔ line.length ≤ limit) ∧
      ((∃ turns, Flowing turns ∧ outcome turns = .ok line) ↔
        line.length < limit + chunkSize) ∧
      ((∃ one other, Flowing one ∧ Flowing other ∧ outcome one ≠ outcome other) ↔
        limit < line.length ∧ line.length < limit + chunkSize)) := by
  intro outcome line
  refine ⟨?_, ?_⟩
  · intro turns hturns
    obtain ⟨hle, hlt⟩ := pieceStart_bounds (by decide : 0 < chunkSize) turns line.length
    exact ⟨hle, hlt, fun hbreak => read_of_mem hbreak hturns closed limit patience,
      fun hbreak => read_of_not_mem hbreak hturns closed limit patience⟩
  · intro hbreak
    have hall : (∀ turns, Flowing turns → outcome turns = .ok line) ↔ line.length ≤ limit :=
      all_taken_iff hbreak
    have hsome : (∃ turns, Flowing turns ∧ outcome turns = .ok line) ↔
        line.length < limit + chunkSize := some_taken_iff hbreak
    refine ⟨hall, hsome, ?_, ?_⟩
    · rintro ⟨one, other, hone, hother, hne⟩
      constructor
      · rcases Nat.lt_or_ge limit line.length with hlong | hle
        · exact hlong
        · exact absurd ((hall.mpr hle one hone).trans (hall.mpr hle other hother).symm) hne
      · rcases Nat.lt_or_ge line.length (limit + chunkSize) with hshort | hge
        · exact hshort
        · have hnone (turns : List Turn) (hturns : Flowing turns) : outcome turns ≠ .ok line :=
            fun htaken => absurd (hsome.mp ⟨turns, hturns, htaken⟩) (Nat.not_lt.mpr hge)
          exact absurd ((read_tooLong hbreak hone (hnone one hone)).trans
            (read_tooLong hbreak hother (hnone other hother)).symm) hne
    · rintro ⟨hlong, hshort⟩
      obtain ⟨one, hone, htaken⟩ := hsome.mpr hshort
      have hsingles := flowing_replicate line.length 0
      refine ⟨one, _, hone, hsingles, ?_⟩
      rw [htaken]
      intro heq
      have hstart := (read_ok_iff hbreak hsingles).mp heq.symm
      rw [pieceStart_latest (by decide : 0 < chunkSize)] at hstart
      exact absurd hstart (Nat.not_le.mpr hlong)

end Framecast.Line
