import Framecast.Proofs.Frame.Refusal

/-!
# Where a frame ends, in exact numbers

`parse` and `wanted` find the end of an inline frame by arithmetic on words: `wanted` clips the sum
of the header's length and the size that was announced, `parse` needs the sum to be a word. Against
the exact number, the header's `span`, clipping makes no difference, while `parse` panics on every
frame that ends beyond the range of words (`parse_exact`). A limit that leaves room for a header
accepts no such frame.
-/

namespace Framecast

namespace Deframer

variable {d : Deframer} {h : Header}

/-- What looking for a frame comes to when the current one is inline and accepted. -/
inductive Reached (now : Readings) (d : Deframer) (h : Header) : Parsed → Prop
  | beyond (hlarge : 0x10000000000000000 ≤ h.span) :
      Reached now d h ⟨.panic Word.addOverflow, d, []⟩
  | short (hword : h.span < 0x10000000000000000) (hshort : d.backlog.length < h.span) :
      Reached now d h ⟨.ok none, d, []⟩
  | whole (hword : h.span < 0x10000000000000000) (hwhole : h.span ≤ d.backlog.length) :
      Reached now d h (d.finishInline now h h.payloadSize.toNat)

/-- An accepted inline header leads to one of three ends: overflow, too few bytes, or a frame. -/
theorem reached_parse (hheader : d.header? = some h) (hinline : h.isInline = true)
    (haccepted : h.payloadSize ≤ d.config.maxInline) (now : Readings) :
    Reached now d h (d.parse now) := by
  have h24 : (24 : Word).toNat = Header.length := rfl
  have hspan : h.span = Header.length + h.payloadSize.toNat := if_pos hinline
  unfold parse
  rw [hheader]
  dsimp only
  rw [if_pos hinline, if_neg (UInt64.not_lt.mpr haccepted)]
  cases htotal : Word.add? 24 h.payloadSize with
  | none =>
    have hlarge := Word.add?_eq_none_iff.mp htotal
    rw [h24, ← hspan] at hlarge
    exact .beyond hlarge
  | some total =>
    have hsum := Word.add?_eq_some_iff.mp htotal
    have hword := total.toNat_lt
    rw [h24, ← hspan] at hsum
    dsimp only
    rw [← hsum] at hword ⊢
    split
    · rename_i hshort
      exact .short hword hshort
    · rename_i hlong
      exact .whole hword (Nat.not_lt.mp hlong)

theorem parse_none (hheader : d.header? = none) (now : Readings) :
    d.parse now = ⟨.ok none, d, []⟩ := by
  rw [parse, hheader]

theorem parse_referenced (hheader : d.header? = some h) (hinline : ¬h.isInline = true)
    (now : Readings) : d.parse now = d.finishReferenced now h := by
  rw [parse, hheader]
  exact if_neg hinline

theorem parse_tooLarge (hheader : d.header? = some h) (hinline : h.isInline = true)
    (hlarge : d.config.maxInline < h.payloadSize) (now : Readings) :
    d.parse now = ⟨.error (.payloadTooLarge h.payloadSize d.config.maxInline), d, []⟩ := by
  rw [parse, hheader]
  dsimp only
  rw [if_pos hinline, if_pos hlarge]

/-- All that looking for a frame can come to, by what is known of the current frame. -/
inductive Sees (now : Readings) (d : Deframer) : Parsed → Prop
  | noHeader (hheader : d.header? = none) : Sees now d ⟨.ok none, d, []⟩
  | tooLarge (h : Header) (hheader : d.header? = some h) (hinline : h.isInline = true)
      (hlarge : d.config.maxInline < h.payloadSize) :
      Sees now d ⟨.error (.payloadTooLarge h.payloadSize d.config.maxInline), d, []⟩
  | accepted {p : Parsed} (h : Header) (hheader : d.header? = some h)
      (hinline : h.isInline = true) (haccepted : h.payloadSize ≤ d.config.maxInline)
      (hreached : Reached now d h p) : Sees now d p
  | referenced (h : Header) (hheader : d.header? = some h) (hinline : ¬h.isInline = true) :
      Sees now d (d.finishReferenced now h)

/-- What a parse sees, case by case. -/
theorem sees_parse (now : Readings) (d : Deframer) : Sees now d (d.parse now) := by
  cases hheader : d.header? with
  | none =>
    rw [parse_none hheader]
    exact .noHeader hheader
  | some h =>
    by_cases hinline : h.isInline = true
    · by_cases hlarge : d.config.maxInline < h.payloadSize
      · rw [parse_tooLarge hheader hinline hlarge]
        exact .tooLarge h hheader hinline hlarge
      · have haccepted := UInt64.not_lt.mp hlarge
        exact .accepted h hheader hinline haccepted (reached_parse hheader hinline haccepted now)
    · rw [parse_referenced hheader hinline]
      exact .referenced h hheader hinline

theorem result_finishInline_ne_panic (now : Readings) (h : Header) (size : Nat) (d : Deframer)
    (message : String) : (d.finishInline now h size).result ≠ .panic message := by
  unfold finishInline
  dsimp only
  split
  · nofun
  · nofun

theorem result_finishReferenced_ne_panic (now : Readings) (h : Header) (d : Deframer)
    (message : String) : (d.finishReferenced now h).result ≠ .panic message := by
  unfold finishReferenced
  dsimp only
  split
  · nofun
  · split
    · nofun
    · nofun

/-- Looking for a frame panics in one way only, for want of a word. -/
theorem parse_panics_iff {now : Readings} {message : String} :
    (d.parse now).result = .panic message ↔ message = Word.addOverflow ∧
      ∃ h, d.header? = some h ∧ h.isInline = true ∧ h.payloadSize ≤ d.config.maxInline ∧
        0x10000000000000000 ≤ h.span := by
  constructor
  · intro hpanic
    have hsees := sees_parse now d
    generalize d.parse now = parsed at hsees hpanic
    cases hsees with
    | noHeader | tooLarge => cases hpanic
    | accepted h hheader hinline haccepted hreached =>
      cases hreached with
      | beyond hlarge =>
        cases hpanic
        exact ⟨rfl, h, hheader, hinline, haccepted, hlarge⟩
      | short => cases hpanic
      | whole => exact absurd hpanic (result_finishInline_ne_panic now h _ d message)
    | referenced h => exact absurd hpanic (result_finishReferenced_ne_panic now h d message)
  · rintro ⟨rfl, h, hheader, hinline, haccepted, hlarge⟩
    have hreached := reached_parse hheader hinline haccepted now
    generalize d.parse now = parsed at hreached ⊢
    cases hreached with
    | beyond => rfl
    | short hword | whole hword => omega

/-- Clipping makes no difference to what is asked for, as nobody holds that many bytes. -/
theorem wanted_inline (hheader : d.header? = some h) (hinline : h.isInline = true)
    (hheld : d.backlog.length < 0x8000000000000000) :
    d.wanted = min readChunk (h.span - d.backlog.length) := by
  rw [wanted_clipped hheader hinline (Nat.lt_trans hheld (by decide))]
  simp only [readChunk]
  omega

/-- An inline frame takes its header and its payload, and leaves what is behind them. -/
theorem taken_finishInline (hheader : d.header? = some h) (hinline : h.isInline = true)
    (hwhole : h.span ≤ d.backlog.length) (now : Readings) :
    let parsed := d.finishInline now h h.payloadSize.toNat
    ∃ payload, payload.length = h.payloadSize.toNat ∧
      d.buffered = h.encode ++ payload ++ parsed.deframer.buffered ∧
      ∀ frame, parsed.result = .ok (some frame) → frame.header = h ∧
        frame.buffer.memory = .heap payload := by
  intro parsed
  have hspan : h.span = Header.length + h.payloadSize.toNat := if_pos hinline
  have hlength : d.buffered.length = d.backlog.length := d.backlog.length_toBytes
  have hfront : d.buffered.take Header.length = h.encode := by
    rw [header?, Backlog.take_eq, Header.decode?_take] at hheader
    exact Header.take_eq_encode_of_decode? hheader
  have hrest : parsed.deframer.buffered =
      d.buffered.drop (Header.length + h.payloadSize.toNat) := by
    have hbacklog : parsed.deframer.backlog =
        d.backlog.drop (Header.length + h.payloadSize.toNat) := backlog_finishInline ..
    rw [buffered, hbacklog, Backlog.toBytes_drop]
    rfl
  refine ⟨d.backlog.slice Header.length h.payloadSize.toNat, ?_, ?_, ?_⟩
  · rw [Backlog.slice_eq, Bytes.slice, List.length_take, List.length_drop, d.backlog.length_toBytes]
    omega
  · rw [hrest, ← hfront, Backlog.slice_eq, Bytes.slice, List.append_assoc, ← List.drop_drop]
    show d.buffered = _ ++ ((d.buffered.drop _).take _ ++ _)
    rw [List.take_append_drop, List.take_append_drop]
  · intro frame hframe
    change (d.finishInline now h h.payloadSize.toNat).result = _ at hframe
    unfold finishInline at hframe
    dsimp only at hframe
    split at hframe
    · cases hframe
      exact ⟨rfl, rfl⟩
    · cases hframe

/-- More is needed exactly as long as the frame is not whole. -/
theorem parse_none_iff (hheader : d.header? = some h) (hinline : h.isInline = true)
    (haccepted : h.payloadSize ≤ d.config.maxInline) (hword : h.span < 0x10000000000000000)
    (now : Readings) : (d.parse now).result = .ok none ↔ d.backlog.length < h.span := by
  have hreached := reached_parse hheader hinline haccepted now
  generalize d.parse now = parsed at hreached ⊢
  cases hreached with
  | beyond hlarge => omega
  | short _ hshort => exact iff_of_true rfl hshort
  | whole _ hwhole =>
    exact iff_of_false (result_finishInline_ne now h _ d) (Nat.not_lt.mpr hwhole)

/-- What is asked for if no frame was found: the rest of the header, or the rest of an inline frame
that is accepted, but no more than one read chunk. -/
inductive Lacking (d : Deframer) : Prop
  | header (hheader : d.header? = none) (hshort : d.backlog.length < Header.length)
      (hwanted : d.wanted = Header.length - d.backlog.length)
  | payload (h : Header) (hheader : d.header? = some h) (hinline : h.isInline = true)
      (haccepted : h.payloadSize ≤ d.config.maxInline) (hword : h.span < 0x10000000000000000)
      (hshort : d.backlog.length < h.span)
      (hwanted : d.wanted = min (h.span - d.backlog.length) readChunk)

theorem lacking_of_parse {now : Readings} (hnone : (d.parse now).result = .ok none) :
    d.Lacking := by
  have hsees := sees_parse now d
  generalize d.parse now = parsed at hsees hnone
  cases hsees with
  | noHeader hheader =>
    refine .header hheader (header?_eq_none_iff.mp hheader) ?_
    rw [wanted, hheader]
  | tooLarge => cases hnone
  | accepted h hheader hinline haccepted hreached =>
    cases hreached with
    | beyond => cases hnone
    | short hword hshort =>
      refine .payload h hheader hinline haccepted hword hshort ?_
      rw [wanted_clipped hheader hinline (Nat.lt_trans hshort hword)]
      omega
    | whole => exact absurd hnone (result_finishInline_ne now h _ d)
  | referenced h => exact absurd hnone (result_finishReferenced_ne now h d)

/-- A deframer that finds nothing in what it holds asks for at least one byte. -/
theorem wanted_pos_of_parse {now : Readings} (hnone : (d.parse now).result = .ok none) :
    0 < d.wanted := by
  cases lacking_of_parse hnone with
  | header _ hshort hwanted => omega
  | payload h _ _ _ _ hshort hwanted =>
    simp only [readChunk] at hwanted
    omega

/-- If there is no frame yet, less than a frame is held. -/
theorem fragment_of_parse {limit : Word} {held : Stretch} (hd : d.Holds limit held)
    {now : Readings} (hnone : (d.parse now).result = .ok none) :
    Grammar.Sized limit held ∧ Grammar.lead limit held = .fragment := by
  have hlacking := lacking_of_parse hnone
  unfold Grammar.Sized Grammar.lead
  rw [← hd.header?_eq]
  cases hlacking with
  | header hheader =>
    rw [hheader]
    exact ⟨nofun, rfl⟩
  | payload h hheader hinline haccepted hword hshort =>
    rw [Header.span, if_pos hinline] at hword hshort
    rw [hd.length_eq] at hshort
    rw [hd.limit] at haccepted
    rw [hheader]
    dsimp only
    rw [if_pos hinline, if_neg (UInt64.not_lt.mpr haccepted), if_pos hshort]
    refine ⟨?_, rfl⟩
    rintro _ ⟨⟩ - -
    exact hword

/-- Nothing changes as long as the frame is not there. -/
theorem deframer_parse (hheader : d.header? = some h) (hinline : h.isInline = true)
    (haccepted : h.payloadSize ≤ d.config.maxInline) (hshort : d.backlog.length < h.span)
    (now : Readings) : (d.parse now).deframer = d := by
  have hreached := reached_parse hheader hinline haccepted now
  generalize d.parse now = parsed at hreached ⊢
  cases hreached with
  | beyond | short => rfl
  | whole _ hwhole => omega

/-- A frame that is taken was there as a whole: its bytes are the first ones that were held, and the
others are kept. -/
theorem taken_parse (hheader : d.header? = some h) (hinline : h.isInline = true)
    (haccepted : h.payloadSize ≤ d.config.maxInline) (hword : h.span < 0x10000000000000000)
    (hwhole : h.span ≤ d.backlog.length) (now : Readings) :
    ∃ payload, payload.length = h.payloadSize.toNat ∧
      d.buffered = h.encode ++ payload ++ (d.parse now).deframer.buffered ∧
      ∀ frame, (d.parse now).result = .ok (some frame) → frame.header = h ∧
        frame.buffer.memory = .heap payload := by
  have hreached := reached_parse hheader hinline haccepted now
  generalize d.parse now = parsed at hreached ⊢
  cases hreached with
  | beyond hlarge => omega
  | short _ hshort => omega
  | whole => exact taken_finishInline hheader hinline hwhole now

/-- **Looking for a frame is exact within the range of words.** For any limit and whatever is held,
`parse` panics exactly on an accepted inline frame that ends beyond the range of words, for want of
one, although the frame is merely not there yet; a limit that leaves room for a header accepts none.
On any other accepted inline frame it asks for more bytes exactly if fewer than the frame's are
held, and takes no more than those. `wanted` is exact also for frames beyond the range. -/
theorem parse_exact (d : Deframer) (now : Readings)
    (hheld : d.backlog.length < 0x8000000000000000) :
    let parsed := d.parse now
    (∀ message, parsed.result = .panic message ↔ message = Word.addOverflow ∧
      ∃ h, d.header? = some h ∧ h.isInline = true ∧ h.payloadSize ≤ d.config.maxInline ∧
        0x10000000000000000 ≤ h.span) ∧
    (d.config.maxInline.toNat ≤ Grammar.largestLimit →
      ∀ message, parsed.result ≠ .panic message) ∧
    (∀ h, d.header? = some h → h.isInline = true → h.payloadSize ≤ d.config.maxInline →
      h.span = Header.length + h.payloadSize.toNat ∧
      d.wanted = min readChunk (h.span - d.backlog.length) ∧
      (0x10000000000000000 ≤ h.span → d.backlog.length < h.span ∧ parsed.deframer = d) ∧
      (h.span < 0x10000000000000000 →
        (parsed.result = .ok none ↔ d.backlog.length < h.span) ∧
        (d.backlog.length < h.span → parsed.deframer = d) ∧
        (h.span ≤ d.backlog.length → ∃ payload, payload.length = h.payloadSize.toNat ∧
          d.buffered = h.encode ++ payload ++ parsed.deframer.buffered ∧
          ∀ frame, parsed.result = .ok (some frame) → frame.header = h ∧
            frame.buffer.memory = .heap payload))) ∧
    (∀ h, d.header? = some h → h.isInline = true → d.config.maxInline < h.payloadSize →
      parsed.result = .error (.payloadTooLarge h.payloadSize d.config.maxInline) ∧
      d.wanted = min readChunk (h.span - d.backlog.length)) ∧
    (∀ h, d.header? = some h → h.isInline = false → parsed.result ≠ .ok none ∧ d.wanted = 0) ∧
    (d.header? = none → parsed.result = .ok none ∧
      d.wanted + d.backlog.length = Header.length) := by
  intro parsed
  refine ⟨fun _ => parse_panics_iff, ?_, ?_, ?_, ?_, ?_⟩
  · intro hlimit message hpanic
    obtain ⟨-, h, -, hinline, hle, hlarge⟩ := parse_panics_iff.mp hpanic
    rw [UInt64.le_iff_toNat_le] at hle
    rw [Header.span, if_pos hinline] at hlarge
    simp only [Grammar.largestLimit, Header.length] at hlimit hlarge
    omega
  · intro h hheader hinline haccepted
    refine ⟨if_pos hinline, wanted_inline hheader hinline hheld, ?_, ?_⟩
    · intro hlarge
      have hshort : d.backlog.length < h.span := by omega
      exact ⟨hshort, deframer_parse hheader hinline haccepted hshort now⟩
    · intro hword
      exact ⟨parse_none_iff hheader hinline haccepted hword now,
        fun hshort => deframer_parse hheader hinline haccepted hshort now,
        fun hwhole => taken_parse hheader hinline haccepted hword hwhole now⟩
  · intro h hheader hinline hlarge
    refine ⟨?_, wanted_inline hheader hinline hheld⟩
    show (d.parse now).result = _
    rw [parse_tooLarge hheader hinline hlarge]
  · intro h hheader hinline
    have hreferenced := Bool.eq_false_iff.mp hinline
    constructor
    · show (d.parse now).result ≠ _
      rw [parse_referenced hheader hreferenced]
      exact result_finishReferenced_ne now h d
    · rw [wanted, hheader]
      exact if_neg hreferenced
  · intro hheader
    have hshort : d.backlog.length < Header.length := by
      rw [header?, Backlog.take_eq, Header.decode?_take, Header.decode?_eq_none_iff] at hheader
      rw [← Backlog.length_toBytes]
      exact hheader
    constructor
    · show (d.parse now).result = _
      rw [parse_none hheader]
    · rw [wanted, hheader]
      exact Nat.sub_add_cancel (Nat.le_of_lt hshort)

/-- A header that announces as many bytes as a word can count: the frame is not there yet. -/
theorem parse_exact_longest :
    let d := push (Header.inlined 0 Word.top).encode [] { config := { maxInline := Word.top } }
    d.backlog.length < 0x8000000000000000 ∧ d.header? = some (.inlined 0 Word.top) ∧
    d.backlog.length < (Header.inlined 0 Word.top).span ∧
    (d.parse default).result = .panic Word.addOverflow ∧ d.wanted = readChunk := by
  intro d
  have hheld : d.backlog.length < 0x8000000000000000 := by decide +kernel
  have hheader : d.header? = some (.inlined 0 Word.top) := by decide +kernel
  have hlarge : 0x10000000000000000 ≤ (Header.inlined 0 Word.top).span := by decide
  obtain ⟨hpanics, -, hexact, -⟩ := parse_exact d default hheld
  obtain ⟨-, hwanted, hbeyond, -⟩ := hexact _ hheader rfl (UInt64.le_refl _)
  have hshort := (hbeyond hlarge).1
  have hpanic := (hpanics _).mpr ⟨rfl, _, hheader, rfl, UInt64.le_refl _, hlarge⟩
  refine ⟨hheld, hheader, hshort, hpanic, ?_⟩
  rw [hwanted]
  decide +kernel

end Deframer

end Framecast
