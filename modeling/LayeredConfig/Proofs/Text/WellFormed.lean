import LayeredConfig.Proofs.Text.Order

/-!
# Well-formed UTF-8

Which bytes are UTF-8, said by the ranges that they lie in: `Sequence` lists the bytes of one character,
where the second byte is what rules out overlong forms, surrogates, and numbers beyond the last character.
The sequences are the bytes that characters have (`sequence_utf8EncodeChar`,
`exists_utf8EncodeChar_of_sequence`), so what can be read are the well-formed bytes (`isSome_decode?_iff`).
-/

namespace LayeredConfig.Text.Utf8

/-- The bytes of one character: a lead byte, and continuation bytes behind it. -/
inductive Sequence : List UInt8 → Prop where
  | one {a : UInt8} (ha : a ≤ 0x7f) : Sequence [a]
  | two {a b : UInt8} (ha : 0xc2 ≤ a ∧ a ≤ 0xdf) (hb : isContinuation b = true) : Sequence [a, b]
  | three {a b c : UInt8} (ha : 0xe0 ≤ a ∧ a ≤ 0xef) (hb : mayFollow a b = true)
      (hc : isContinuation c = true) : Sequence [a, b, c]
  | four {a b c d : UInt8} (ha : 0xf0 ≤ a ∧ a ≤ 0xf4) (hb : mayFollow a b = true)
      (hc : isContinuation c = true) (hd : isContinuation d = true) : Sequence [a, b, c, d]

/-- Sequences one after another. -/
inductive WellFormed : List UInt8 → Prop where
  | nil : WellFormed []
  | cons {bytes rest : List UInt8} : Sequence bytes → WellFormed rest → WellFormed (bytes ++ rest)

/-! ## Sequences and characters -/

/-- The bytes that continue a character are those from 80 to bf. -/
theorem isContinuation_iff {b : UInt8} : isContinuation b = true ↔ 0x80 ≤ b.toNat ∧ b.toNat ≤ 0xbf := by
  simp [isContinuation, UInt8.le_iff_toNat_le]

/-- The second byte is a continuation byte, in a shorter range behind four of the lead bytes. -/
theorem mayFollow_iff {a b : UInt8} :
    mayFollow a b = true ↔ (0x80 ≤ b.toNat ∧ b.toNat ≤ 0xbf) ∧
      (a.toNat = 0xe0 → 0xa0 ≤ b.toNat) ∧ (a.toNat = 0xed → b.toNat ≤ 0x9f) ∧
      (a.toNat = 0xf0 → 0x90 ≤ b.toNat) ∧ (a.toNat = 0xf4 → b.toNat ≤ 0x8f) := by
  unfold mayFollow
  simp only [← UInt8.toNat_inj, UInt8.reduceToNat]
  split
  · simp [UInt8.le_iff_toNat_le]; omega
  split
  · simp [UInt8.le_iff_toNat_le]; omega
  split
  · simp [UInt8.le_iff_toNat_le]; omega
  split
  · simp [UInt8.le_iff_toNat_le]; omega
  · rw [isContinuation_iff]
    omega

theorem toNat_lt_of_char (c : Char) :
    c.val.toNat < 0xd800 ∨ 0xdfff < c.val.toNat ∧ c.val.toNat < 0x110000 := c.valid

theorem toNat_ofNat_char {n : Nat} (h : n < 0xd800 ∨ 0xdfff < n ∧ n < 0x110000) :
    (Char.ofNat n).val.toNat = n := by
  have hvalid : n.isValidChar := h
  rw [Char.ofNat, dif_pos hvalid]
  exact UInt32.toNat_ofNatLT ..

/-- Every character is encoded as a well-formed sequence: by cases on how many bytes it takes. -/
theorem sequence_utf8EncodeChar (c : Char) : Sequence (String.utf8EncodeChar c) := by
  have hvalid := toNat_lt_of_char c
  simp only [String.utf8EncodeChar]
  -- the four lengths, each with the bytes that may begin it
  generalize c.val.toNat = n at *
  split
  · refine .one ?_
    rw [UInt8.le_iff_toNat_le, toNat_ofNat_byte (by omega)]
    exact ‹_›
  split
  · refine .two ?_ ?_
    · simp (disch := omega) only [UInt8.le_iff_toNat_le, toNat_ofNat_byte, UInt8.reduceToNat]
      omega
    · rw [isContinuation_iff, toNat_ofNat_byte (by omega)]
      omega
  split
  · refine .three ?_ ?_ ?_
    · simp (disch := omega) only [UInt8.le_iff_toNat_le, toNat_ofNat_byte, UInt8.reduceToNat]
      omega
    · rw [mayFollow_iff, toNat_ofNat_byte (by omega), toNat_ofNat_byte (by omega)]
      omega
    · rw [isContinuation_iff, toNat_ofNat_byte (by omega)]
      omega
  · refine .four ?_ ?_ ?_ ?_
    · simp (disch := omega) only [UInt8.le_iff_toNat_le, toNat_ofNat_byte, UInt8.reduceToNat]
      omega
    · rw [mayFollow_iff, toNat_ofNat_byte (by omega), toNat_ofNat_byte (by omega)]
      omega
    · rw [isContinuation_iff, toNat_ofNat_byte (by omega)]
      omega
    · rw [isContinuation_iff, toNat_ofNat_byte (by omega)]
      omega

/-- The digits in base 64 that a sequence holds are those of a character. -/
theorem exists_utf8EncodeChar_of_sequence {bytes : List UInt8} (h : Sequence bytes) :
    ∃ c, bytes = String.utf8EncodeChar c := by
  -- it is enough to find the code point
  suffices ∃ n, (n < 0xd800 ∨ 0xdfff < n ∧ n < 0x110000) ∧
      ∀ c : Char, c.val.toNat = n → bytes = String.utf8EncodeChar c by
    obtain ⟨n, hn, hbytes⟩ := this
    exact ⟨Char.ofNat n, hbytes _ (toNat_ofNat_char hn)⟩
  cases h with
  | @one a ha =>
    simp only [UInt8.le_iff_toNat_le, UInt8.reduceToNat] at ha
    refine ⟨a.toNat, by omega, fun c hc => ?_⟩
    rw [String.utf8EncodeChar, hc, if_pos ha, UInt8.ofNat_toNat]
  | @two a b ha hb =>
    simp only [UInt8.le_iff_toNat_le, UInt8.reduceToNat] at ha
    rw [isContinuation_iff] at hb
    refine ⟨(a.toNat - 0xc0) * 64 + (b.toNat - 0x80), by omega, fun c hc => ?_⟩
    rw [String.utf8EncodeChar, hc, if_neg (by omega), if_pos (by omega)]
    simp (disch := omega) only [List.cons.injEq, and_true, ← UInt8.toNat_inj, toNat_ofNat_byte]
    omega
  | @three a b c ha hb hc =>
    simp only [UInt8.le_iff_toNat_le, UInt8.reduceToNat] at ha
    rw [mayFollow_iff] at hb
    rw [isContinuation_iff] at hc
    refine ⟨((a.toNat - 0xe0) * 64 + (b.toNat - 0x80)) * 64 + (c.toNat - 0x80), by omega,
      fun char hchar => ?_⟩
    rw [String.utf8EncodeChar, hchar, if_neg (by omega), if_neg (by omega), if_pos (by omega)]
    simp (disch := omega) only [List.cons.injEq, and_true, ← UInt8.toNat_inj, toNat_ofNat_byte]
    omega
  | @four a b c d ha hb hc hd =>
    simp only [UInt8.le_iff_toNat_le, UInt8.reduceToNat] at ha
    rw [mayFollow_iff] at hb
    rw [isContinuation_iff] at hc hd
    refine ⟨(((a.toNat - 0xf0) * 64 + (b.toNat - 0x80)) * 64 + (c.toNat - 0x80)) * 64 +
      (d.toNat - 0x80), by omega, fun char hchar => ?_⟩
    rw [String.utf8EncodeChar, hchar, if_neg (by omega), if_neg (by omega), if_neg (by omega)]
    simp (disch := omega) only [List.cons.injEq, and_true, ← UInt8.toNat_inj, toNat_ofNat_byte]
    omega

/-! ## Texts -/

/-- Characters encoded one after another are well-formed. -/
theorem wellFormed_flatMap (chars : List Char) :
    WellFormed (chars.flatMap String.utf8EncodeChar) := by
  induction chars with
  | nil => exact .nil
  | cons c chars ih => exact .cons (sequence_utf8EncodeChar c) ih

/-- Well-formed bytes are characters encoded one after another. -/
theorem exists_flatMap_of_wellFormed {bytes : List UInt8} (h : WellFormed bytes) :
    ∃ chars : List Char, bytes = chars.flatMap String.utf8EncodeChar := by
  induction h with
  | nil => exact ⟨[], rfl⟩
  | cons hbytes _ ih =>
    obtain ⟨c, rfl⟩ := exists_utf8EncodeChar_of_sequence hbytes
    obtain ⟨chars, rfl⟩ := ih
    exact ⟨c :: chars, rfl⟩

/-- An encoded text is decoded to itself. -/
theorem decode?_encode (s : String) : decode? (encode s) = some s := by
  have harray : (⟨(encode s).toArray⟩ : ByteArray) = s.toByteArray := rfl
  rw [decode?, harray, String.fromUTF8?, dif_pos s.isValidUTF8]
  rfl

/-- A decoded text is encoded to the bytes that it came from. -/
theorem encode_of_decode? {bytes : List UInt8} {s : String} (h : decode? bytes = some s) :
    encode s = bytes := by
  unfold decode? String.fromUTF8? at h
  split at h
  · cases h
    rfl
  · cases h

/-- Only the bytes of a text are read as it. -/
theorem decode?_eq_some_iff {bytes : List UInt8} {s : String} :
    decode? bytes = some s ↔ encode s = bytes :=
  ⟨encode_of_decode?, fun h => h ▸ decode?_encode s⟩

/-- **Well-formed UTF-8.** All well-formed bytes are read, and no others. -/
theorem isSome_decode?_iff {bytes : List UInt8} : (decode? bytes).isSome ↔ WellFormed bytes := by
  constructor
  · intro h
    obtain ⟨s, hs⟩ := Option.isSome_iff_exists.1 h
    rw [← encode_of_decode? hs, encode_eq_flatMap]
    exact wellFormed_flatMap _
  · intro h
    obtain ⟨chars, rfl⟩ := exists_flatMap_of_wellFormed h
    have hencode := encode_eq_flatMap (String.ofList chars)
    rw [String.toList_ofList] at hencode
    rw [← hencode, decode?_encode]
    rfl

end LayeredConfig.Text.Utf8
