import LayeredConfig.Encoding
import LayeredConfig.Proofs.Text.WellFormed

/-!
# Encodings are one to one

Each encoding pairs the texts it can write with the bytes it can read (`exact_agreeing`): what it writes
is read back, what it reads is written again, and it fails exactly outside of its range. Two of them write
a character as the byte of its code point, up to a limit of at most 256 (`encodeBelow`, `decodeBytes`).
-/

namespace LayeredConfig.Encoding

/-! ## What can be written and read -/

/-- The encoding has bytes for the character. -/
def InRange : Encoding → Char → Prop
  | ascii, c => c.toNat ≤ 0x7f
  | utf8, _ => True
  | latin1, c => c.toNat ≤ 0xff

/-- The bytes are a text in the encoding. -/
def Readable : Encoding → List UInt8 → Prop
  | ascii, bytes => ∀ b ∈ bytes, b ≤ 0x7f
  | utf8, bytes => Text.Utf8.WellFormed bytes
  | latin1, _ => True

/-- The first character of a text that an encoding has no bytes for. -/
def FirstOutside (e : Encoding) (chars : List Char) (c : Char) : Prop :=
  ∃ before after, chars = before ++ c :: after ∧ (∀ d ∈ before, e.InRange d) ∧ ¬ e.InRange c

/-- Writing and reading are inverse to each other, and fail only where they have to. -/
structure Exact (e : Encoding) : Prop where
  encode_iff_decode : ∀ s bytes, e.encode s = .ok bytes ↔ e.decode? bytes = some s
  encode_error_iff : ∀ s c, e.encode s = .error c ↔ e.FirstOutside s.toList c
  encode_fails_iff : ∀ s, (∃ c, e.encode s = .error c) ↔ ∃ c ∈ s.toList, ¬ e.InRange c
  decode_fails_iff : ∀ bytes, e.decode? bytes = none ↔ ¬ e.Readable bytes

/-! ## Bytes as code points -/

section Below

variable {limit : Nat}

/-- Every character below the limit is written as one byte, and there may be no other. -/
theorem encodeBelow_eq_ok_iff {chars : List Char} {bytes : List UInt8} :
    encodeBelow limit chars = .ok bytes ↔
      (∀ c ∈ chars, c.toNat < limit) ∧ bytes = chars.map fun c => UInt8.ofNat c.toNat := by
  induction chars generalizing bytes with
  | nil => simp [encodeBelow, eq_comm]
  | cons c chars ih =>
    rw [encodeBelow, List.forall_mem_cons, List.map_cons]
    split
    · next hc =>
      cases hrest : encodeBelow limit chars with
      | error d =>
        have hnot : ¬ ∀ c ∈ chars, c.toNat < limit := fun hall => by
          cases hrest.symm.trans (ih.2 ⟨hall, rfl⟩)
        simp [Except.map, hnot]
      | ok rest =>
        obtain ⟨hall, rfl⟩ := ih.1 hrest
        simpa [Except.map, hc, eq_comm] using fun _ => hall
    · next hc => simp [hc]

/-- What is refused is the first character that is not below the limit. -/
theorem encodeBelow_eq_error_iff {chars : List Char} {c : Char} :
    encodeBelow limit chars = .error c ↔
      ∃ before after, chars = before ++ c :: after ∧ (∀ d ∈ before, d.toNat < limit) ∧
        ¬ c.toNat < limit := by
  induction chars with
  | nil => simp [encodeBelow]
  | cons d chars ih =>
    rw [encodeBelow]
    split
    · next hd =>
      have herror : (encodeBelow limit chars).map (UInt8.ofNat d.toNat :: ·) = .error c ↔
          encodeBelow limit chars = .error c := by
        cases encodeBelow limit chars <;> simp [Except.map]
      -- a character that can be written moves the first one that cannot by one place
      rw [herror, ih]
      constructor
      · rintro ⟨before, after, rfl, hall, hc⟩
        exact ⟨d :: before, after, rfl, List.forall_mem_cons.2 ⟨hd, hall⟩, hc⟩
      · rintro ⟨before, after, heq, hall, hc⟩
        cases before with
        | nil =>
          cases heq
          exact absurd hd hc
        | cons e before =>
          cases heq
          exact ⟨before, after, rfl, (List.forall_mem_cons.1 hall).2, hc⟩
    · next hd =>
      constructor
      · intro h
        cases h
        exact ⟨[], chars, rfl, by simp, hd⟩
      · rintro ⟨before, after, heq, hall, hc⟩
        cases before with
        | nil =>
          cases heq
          rfl
        | cons e before =>
          cases heq
          exact absurd (hall d List.mem_cons_self) hd

/-- A character below 256 comes back from its byte. -/
theorem ofNat_toNat_byte {c : Char} (h : c.toNat < 256) :
    Char.ofNat (UInt8.ofNat c.toNat).toNat = c := by
  rw [Text.Utf8.toNat_ofNat_byte h, Char.ofNat_toNat]

theorem toNat_ofNat_codePoint (b : UInt8) : (Char.ofNat b.toNat).toNat = b.toNat :=
  Text.Utf8.toNat_ofNat_char (Or.inl (Nat.lt_trans b.toNat_lt (by decide)))

/-- Characters below a limit and bytes below it are written and read as each other. -/
theorem encodeBelow_iff_decodeBytes (hlimit : limit ≤ 256) (s : String) (bytes : List UInt8) :
    encodeBelow limit s.toList = .ok bytes ↔
      (∀ b ∈ bytes, b.toNat < limit) ∧ decodeBytes bytes = s := by
  rw [encodeBelow_eq_ok_iff]
  constructor
  · rintro ⟨hall, rfl⟩
    -- below the limit a character is its byte
    have hbyte : ∀ c ∈ s.toList, c.toNat < 256 := fun c hc => Nat.lt_of_lt_of_le (hall c hc) hlimit
    constructor
    · intro b hb
      obtain ⟨c, hc, rfl⟩ := List.mem_map.1 hb
      rw [Text.Utf8.toNat_ofNat_byte (hbyte c hc)]
      exact hall c hc
    · have hchars : (s.toList.map fun c => UInt8.ofNat c.toNat).map (fun b => Char.ofNat b.toNat) =
          s.toList := by
        rw [List.map_map]
        exact (List.map_congr_left fun c hc => ofNat_toNat_byte (hbyte c hc)).trans (List.map_id' _)
      rw [decodeBytes, hchars, String.ofList_toList]
  · rintro ⟨hall, rfl⟩
    rw [decodeBytes, String.toList_ofList, List.map_map]
    constructor
    · intro c hc
      obtain ⟨b, hb, rfl⟩ := List.mem_map.1 hc
      rw [toNat_ofNat_codePoint]
      exact hall b hb
    · refine (List.map_id'' (fun b => ?_) bytes).symm
      rw [Function.comp_apply, toNat_ofNat_codePoint, UInt8.ofNat_toNat]

end Below

/-! ## The encodings -/

theorem inRange_ascii_iff {c : Char} : ascii.InRange c ↔ c.toNat < 0x80 := Nat.lt_succ_iff.symm

theorem inRange_latin1_iff {c : Char} : latin1.InRange c ↔ c.toNat < 0x100 := Nat.lt_succ_iff.symm

theorem readable_ascii_iff {bytes : List UInt8} :
    ascii.Readable bytes ↔ ∀ b ∈ bytes, b.toNat < 0x80 :=
  forall₂_congr fun _ _ => UInt8.le_iff_toNat_le.trans Nat.lt_succ_iff.symm

/-- ASCII reads bytes below 128 as their characters, and there may be no other. -/
theorem decode?_ascii_eq_some_iff (s : String) (bytes : List UInt8) :
    ascii.decode? bytes = some s ↔ (∀ b ∈ bytes, b.toNat < 0x80) ∧ decodeBytes bytes = s := by
  rw [decode?, Option.ite_none_right_eq_some, Option.some_inj]
  simp [UInt8.lt_iff_toNat_lt]

/-- A text is written as some bytes exactly where these are read as the text. -/
theorem encode_iff_decode (e : Encoding) (s : String) (bytes : List UInt8) :
    e.encode s = .ok bytes ↔ e.decode? bytes = some s := by
  cases e with
  | ascii =>
    rw [encode, encodeBelow_iff_decodeBytes (by decide), decode?_ascii_eq_some_iff]
  | utf8 =>
    rw [encode, Except.ok.injEq, decode?, Text.Utf8.decode?_eq_some_iff]
  | latin1 =>
    rw [encode, encodeBelow_iff_decodeBytes (by decide), decode?, Option.some_inj, and_iff_right]
    exact fun b _ => b.toNat_lt

/-- It is the first character outside of the range that is reported. -/
theorem encode_error_iff (e : Encoding) (s : String) (c : Char) :
    e.encode s = .error c ↔ e.FirstOutside s.toList c := by
  cases e with
  | ascii => simp only [encode, encodeBelow_eq_error_iff, FirstOutside, inRange_ascii_iff]
  | utf8 => simp [encode, FirstOutside, InRange]
  | latin1 => simp only [encode, encodeBelow_eq_error_iff, FirstOutside, inRange_latin1_iff]

/-- Where there are characters outside of the range, one of them is the first. -/
theorem exists_firstOutside_iff (e : Encoding) (chars : List Char) :
    (∃ c, e.FirstOutside chars c) ↔ ∃ c ∈ chars, ¬ e.InRange c := by
  constructor
  · rintro ⟨c, before, after, rfl, -, hc⟩
    exact ⟨c, by simp, hc⟩
  · induction chars with
    | nil => simp
    | cons d chars ih =>
      rintro ⟨c, hc, hout⟩
      by_cases hd : e.InRange d
      · have hmem : c ∈ chars := (List.mem_cons.1 hc).resolve_left fun heq => hout (heq ▸ hd)
        obtain ⟨c', before, after, rfl, hall, hc'⟩ := ih ⟨c, hmem, hout⟩
        exact ⟨c', d :: before, after, rfl, List.forall_mem_cons.2 ⟨hd, hall⟩, hc'⟩
      · exact ⟨d, [], chars, rfl, by simp, hd⟩

/-- Bytes are refused where they are not readable in the encoding. -/
theorem decode_fails_iff (e : Encoding) (bytes : List UInt8) :
    e.decode? bytes = none ↔ ¬ e.Readable bytes := by
  cases e with
  | ascii =>
    rw [Option.eq_none_iff_forall_ne_some, readable_ascii_iff]
    simp [decode?_ascii_eq_some_iff]
  | utf8 =>
    rw [decode?, Readable, ← Text.Utf8.isSome_decode?_iff, Option.not_isSome_iff_eq_none]
  | latin1 => simp [decode?, Readable]

/-- Every encoding is exact. -/
theorem exact_encoding (e : Encoding) : Exact e where
  encode_iff_decode := e.encode_iff_decode
  encode_error_iff := e.encode_error_iff
  encode_fails_iff s := by simp only [encode_error_iff, exists_firstOutside_iff]
  decode_fails_iff := e.decode_fails_iff

/-- A character of one byte in UTF-8 is the byte of its code point. -/
theorem flatMap_utf8EncodeChar_of_ascii {chars : List Char} (h : ∀ c ∈ chars, c.toNat < 0x80) :
    chars.flatMap String.utf8EncodeChar = chars.map fun c => UInt8.ofNat c.toNat := by
  induction chars with
  | nil => rfl
  | cons c chars ih =>
    obtain ⟨hc, hchars⟩ := List.forall_mem_cons.1 h
    have hbyte : String.utf8EncodeChar c = [UInt8.ofNat c.toNat] := if_pos (Nat.lt_succ_iff.1 hc)
    rw [List.flatMap_cons, hbyte, ih hchars]
    rfl

/-- What is written in ascii is written alike in all three encodings. -/
theorem encode_of_ascii {s : String} {bytes : List UInt8} (h : ascii.encode s = .ok bytes)
    (e : Encoding) : e.encode s = .ok bytes := by
  obtain ⟨hall, rfl⟩ := encodeBelow_eq_ok_iff.1 h
  cases e with
  | ascii => exact h
  | utf8 => rw [encode, Text.Utf8.encode_eq_flatMap, flatMap_utf8EncodeChar_of_ascii hall]
  | latin1 =>
    exact encodeBelow_eq_ok_iff.2 ⟨fun c hc => Nat.lt_trans (hall c hc) (by decide), rfl⟩

/-- **Encodings.** Each encoding writes and reads one to one and fails only outside of its range, and all
three agree on the texts of ascii. -/
theorem exact_agreeing :
    (∀ e, Exact e) ∧ ∀ s bytes, ascii.encode s = .ok bytes → ∀ e, encode e s = .ok bytes :=
  ⟨exact_encoding, fun _ _ h e => encode_of_ascii h e⟩

end LayeredConfig.Encoding
