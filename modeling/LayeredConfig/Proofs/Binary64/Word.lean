import LayeredConfig.Binary64

/-!
# Floats and their words

A float is kept as a word of 64 bits, and its operations begin by unpacking the word into a sign, a
mantissa and an exponent. `unpack_eq` says that what they unpack is what `Reading.ofFloat` reads;
`fits_of_reading` says which mantissas and exponents that can be.

All words that stand for no number become the same one, and every other word is kept
(`toNat_toBits_ofBits`).
-/

namespace LayeredConfig.Binary64

open Float.Model Float.Model.UnpackedFloat

/-! ## The three fields of a word -/

section

variable (b : BitVec Format.binary64.numBits)

/-- The sign field is the highest of the 64 bits. -/
theorem toNat_unpackSign : (unpackSign b).toNat = b.toNat / signBit := by
  have hlt : b.toNat < 2 ^ 64 := b.isLt
  have hbit : (unpackSign b).toNat = (b.extractLsb 63 63).toNat := rfl
  rw [hbit, BitVec.extractLsb_toNat, Nat.shiftRight_eq_div_pow]
  simp only [signBit]
  omega

theorem toNat_unpackExponent : (unpackExponent b).toNat = b.toNat / leadingBit % 2048 := by
  simp [unpackExponent, BitVec.extractLsb_toNat, Nat.shiftRight_eq_div_pow, leadingBit]

theorem toNat_unpackMantissa : (unpackMantissa b).toNat = b.toNat % leadingBit := by
  simp [unpackMantissa, BitVec.extractLsb_toNat, leadingBit]

end

/-- The leading bit, which no word holds, in front of a mantissa field adds `2 ^ 52` to it. -/
theorem toNat_leading_append (m : BitVec 52) : (1#1 ++ m).toNat = leadingBit + m.toNat := by
  rw [BitVec.toNat_append, ← Nat.shiftLeft_add_eq_or_of_lt m.isLt]
  rfl

/-- The sign bit in its place. -/
def signPart (negative : Bool) : Nat := if negative then signBit else 0

@[simp] theorem signPart_false : signPart false = 0 := rfl

@[simp] theorem signPart_true : signPart true = signBit := rfl

/-- A word is the sum of its three fields, each in its place. -/
theorem word_eq {w : Nat} (hw : w < 2 * signBit) :
    signPart (decide (w / signBit = 1)) + (w / leadingBit % 2048 * leadingBit + w % leadingBit) = w := by
  by_cases hsign : w / signBit = 1
  · rw [decide_eq_true hsign, signPart_true]
    simp only [signBit, leadingBit] at *
    omega
  · rw [decide_eq_false hsign, signPart_false]
    simp only [signBit, leadingBit] at *
    omega

/-! ## What is read of a word -/

/-- A mantissa and an exponent that are read of some word. -/
structure Fits (mantissa : Nat) (exponent : Int) : Prop where
  lt : mantissa < 2 * leadingBit
  least : -1074 ≤ exponent
  greatest : exponent ≤ 971
  leading : leadingBit ≤ mantissa ∨ exponent = -1074

namespace Reading

/-- Reads a word. -/
def ofWord (w : Nat) : Reading :=
  let negative := decide (w / signBit = 1)
  let field := w / leadingBit % 2048
  let fraction := w % leadingBit
  if field = 2047 then
    if fraction = 0 then .infinite negative else .notANumber
  else if field = 0 then .finite negative fraction (-1074)
  else .finite negative (leadingBit + fraction) ((field : Int) - 1075)

theorem ofFloat_eq (x : Float) : ofFloat x = ofWord x.toBits.toNat := rfl

/-- What is read of a finite word has at most 53 bits, and 53 of them unless its exponent is the least. -/
theorem fits_of_ofWord {w : Nat} {negative : Bool} {mantissa : Nat} {exponent : Int}
    (h : ofWord w = finite negative mantissa exponent) : Fits mantissa exponent := by
  have hfraction : w % leadingBit < leadingBit := Nat.mod_lt _ (by decide)
  have hfield : w / leadingBit % 2048 < 2048 := Nat.mod_lt _ (by decide)
  unfold ofWord at h
  generalize w / leadingBit % 2048 = field at *
  generalize w % leadingBit = fraction at *
  simp only at h
  split at h
  · split at h <;> cases h
  · split at h
    · cases h
      constructor <;> omega
    · cases h
      constructor <;> omega

/-- Only a magnitude above that of infinity stands for no number. -/
theorem ofWord_ne_notANumber {w : Nat} (h : w % signBit ≤ 2047 * leadingBit) :
    ofWord w ≠ notANumber := by
  intro hnone
  simp only [ofWord] at hnone
  split at hnone
  · next hfield =>
    split at hnone
    · cases hnone
    · next hfraction =>
      simp only [signBit, leadingBit] at *
      omega
  · split at hnone <;> cases hnone

end Reading

theorem fits_of_reading {x : Float} {negative : Bool} {mantissa : Nat} {exponent : Int}
    (h : Reading.ofFloat x = .finite negative mantissa exponent) : Fits mantissa exponent :=
  Reading.fits_of_ofWord h

/-! ## What is unpacked -/

/-- A sign as floats have it when they are unpacked. -/
def signOf (negative : Bool) : Sign := if negative then .negative else .positive

/-- A reading as an unpacked float, where zeros are apart. -/
def Reading.unpacked : Reading → UnpackedFloat
  | notANumber => .notANumber
  | infinite negative => .infinity (signOf negative)
  | finite negative mantissa exponent =>
    if h : 0 < mantissa then .finite (signOf negative) mantissa exponent h
    else .zero (signOf negative)

theorem Reading.unpacked_zero (negative : Bool) (exponent : Int) :
    (finite negative 0 exponent).unpacked = .zero (signOf negative) := rfl

theorem Reading.unpacked_of_pos (negative : Bool) {mantissa : Nat} (exponent : Int) (h : 0 < mantissa) :
    (finite negative mantissa exponent).unpacked = .finite (signOf negative) mantissa exponent h :=
  dif_pos h

/-- The sign that is unpacked is negative where the highest bit is set. -/
theorem ofBitVec_unpackSign (b : BitVec Format.binary64.numBits) :
    Sign.ofBitVec (unpackSign b) = signOf (decide (b.toNat / signBit = 1)) := by
  have h := toNat_unpackSign b
  have hlt := (unpackSign b).isLt
  simp only [Sign.ofBitVec, BitVec.toNat_eq, BitVec.toNat_ofNat, signOf, decide_eq_true_eq]
  split <;> split <;> first | rfl | omega

/-- An unpacked number depends on the values of its mantissa and exponent, whatever shows it positive. -/
theorem finite_congr {sign : Sign} {m m' : Nat} {e e' : Int} (hpos : 0 < m) (hpos' : 0 < m') (hm : m = m')
    (he : e = e') : UnpackedFloat.finite sign m e hpos = .finite sign m' e' hpos' := by
  subst hm he
  rfl

/-- Unpacking a word gives what is read of it: by cases on the exponent field, which is full, empty or
neither. -/
theorem unpack_word (b : BitVec Format.binary64.numBits) :
    UnpackedFloat.unpack .binary64 b = (Reading.ofWord b.toNat).unpacked := by
  have hones : unpackExponent b = -1#_ ↔ b.toNat / leadingBit % 2048 = 2047 :=
    toNat_unpackExponent b ▸ BitVec.toNat_eq
  have hzero : unpackExponent b = 0#_ ↔ b.toNat / leadingBit % 2048 = 0 :=
    toNat_unpackExponent b ▸ BitVec.toNat_eq
  have hnull : unpackMantissa b = 0#_ ↔ b.toNat % leadingBit = 0 :=
    toNat_unpackMantissa b ▸ BitVec.toNat_eq
  have hexponent := toNat_unpackExponent b
  have hmantissa := toNat_unpackMantissa b
  rw [Reading.ofWord]
  -- the same four questions are asked on both sides, here of the fields and there of their numbers
  by_cases hfield : unpackExponent b = -1#_
  · by_cases hfraction : unpackMantissa b = 0#_
    · have hunpack : UnpackedFloat.unpack .binary64 b = .infinity (Sign.ofBitVec (unpackSign b)) :=
        (if_pos hfield).trans (if_pos hfraction)
      rw [hunpack, ofBitVec_unpackSign, if_pos (hones.1 hfield), if_pos (hnull.1 hfraction)]
      rfl
    · have hunpack : UnpackedFloat.unpack .binary64 b = .notANumber :=
        (if_pos hfield).trans (if_neg hfraction)
      rw [hunpack, if_pos (hones.1 hfield), if_neg (mt hnull.2 hfraction)]
      rfl
  · by_cases hleast : unpackExponent b = 0#_
    · by_cases hfraction : unpackMantissa b = 0#_
      · have hunpack : UnpackedFloat.unpack .binary64 b = .zero (Sign.ofBitVec (unpackSign b)) :=
          (if_neg hfield).trans ((if_pos hleast).trans (dif_pos hfraction))
        rw [hunpack, ofBitVec_unpackSign, if_neg (mt hones.2 hfield), if_pos (hzero.1 hleast),
          hnull.1 hfraction]
        rfl
      · have hpos : 0 < (unpackMantissa b).toNat :=
          hmantissa ▸ Nat.pos_of_ne_zero (mt hnull.2 hfraction)
        have hunpack : UnpackedFloat.unpack .binary64 b = .finite (Sign.ofBitVec (unpackSign b))
            (unpackMantissa b).toNat ((unpackExponent b).toNat - 1075 + 1) hpos :=
          (if_neg hfield).trans ((if_pos hleast).trans (dif_neg hfraction))
        rw [hunpack, ofBitVec_unpackSign, if_neg (mt hones.2 hfield), if_pos (hzero.1 hleast),
          Reading.unpacked_of_pos _ _ (hmantissa ▸ hpos)]
        exact finite_congr _ _ hmantissa (by rw [hexponent, hzero.1 hleast]; rfl)
    · have hleading := toNat_leading_append (unpackMantissa b)
      have hpos : 0 < leadingBit + b.toNat % leadingBit := Nat.add_pos_left (by decide) _
      have hpos' : 0 < (1#1 ++ unpackMantissa b).toNat := by
        rw [hleading, hmantissa]
        exact hpos
      have hunpack : UnpackedFloat.unpack .binary64 b = .finite (Sign.ofBitVec (unpackSign b))
          (1#1 ++ unpackMantissa b).toNat ((unpackExponent b).toNat - 1075) hpos' :=
        (if_neg hfield).trans (if_neg hleast)
      rw [hunpack, ofBitVec_unpackSign, if_neg (mt hones.2 hfield), if_neg (mt hzero.2 hleast),
        Reading.unpacked_of_pos _ _ hpos]
      exact finite_congr _ _ (hleading.trans (by rw [hmantissa])) (by rw [hexponent])

/-- What the operations on floats unpack is what is read. -/
theorem unpack_eq (x : Float) : x.toModel.unpack = (Reading.ofFloat x).unpacked :=
  unpack_word x.toModel.toBits.toBitVec

/-- The test for finite floats is the one that floats come with. -/
theorem isFinite_eq (x : Float) : isFinite x = x.isFinite := by
  change _ = x.toModel.unpack.isFinite
  rw [unpack_eq, isFinite]
  cases Reading.ofFloat x with
  | notANumber | infinite s => rfl
  | finite s m e =>
    change true = (Reading.finite s m e).unpacked.isFinite
    rcases Nat.eq_zero_or_pos m with rfl | hpos
    · rfl
    · rw [Reading.unpacked_of_pos _ _ hpos]
      rfl

/-! ## What is packed -/

/-- A sign is packed into the highest bit. -/
theorem toBitVec_signOf (negative : Bool) : (signOf negative).toBitVec.toNat * signBit = signPart negative := by
  cases negative <;> rfl

/-- A packed word is the sum of its fields, each at its place. -/
theorem toNat_packComponents (negative : Bool) (field : BitVec 11) (fraction : BitVec 52) :
    (packComponents .binary64 (signOf negative) field fraction).toNat =
      signPart negative + (field.toNat * leadingBit + fraction.toNat) := by
  have hfront : ((signOf negative).toBitVec ++ field).toNat =
      (signOf negative).toBitVec.toNat * 2 ^ 11 + field.toNat := by
    rw [BitVec.toNat_append, ← Nat.shiftLeft_add_eq_or_of_lt field.isLt, Nat.shiftLeft_eq]
  have hword : (packComponents .binary64 (signOf negative) field fraction).toNat =
      ((signOf negative).toBitVec ++ field).toNat * 2 ^ 52 + fraction.toNat := by
    rw [← Nat.shiftLeft_eq, Nat.shiftLeft_add_eq_or_of_lt fraction.isLt]
    exact BitVec.toNat_append _ _
  rw [hword, hfront, ← toBitVec_signOf]
  simp only [signBit, leadingBit]
  omega

/-- The leading bit of a mantissa is the one that is not written. -/
theorem log2_mantissa_iff {m : Nat} (hpos : 0 < m) (hlt : m < 2 * leadingBit) :
    m.log2 + 1 = 53 ↔ leadingBit ≤ m := by
  have hupper : m.log2 < 53 ↔ m < 2 ^ 53 := Nat.log2_lt (Nat.ne_of_gt hpos)
  have hlower : m.log2 < 52 ↔ m < 2 ^ 52 := Nat.log2_lt (Nat.ne_of_gt hpos)
  simp only [leadingBit] at *
  omega

/-- A fraction with the least exponent is packed as it stands, under an empty exponent field. -/
theorem toNat_pack_subnormal (negative : Bool) {fraction : Nat} (hpos : 0 < fraction)
    (hlt : fraction < leadingBit) :
    (UnpackedFloat.pack .binary64 (.finite (signOf negative) fraction (-1074) hpos)).toNat =
      signPart negative + fraction := by
  have hbits : ¬ fraction.log2 + 1 = 53 := by
    rw [log2_mantissa_iff hpos (by omega)]
    omega
  have hpack : UnpackedFloat.pack .binary64 (.finite (signOf negative) fraction (-1074) hpos) =
      packComponents .binary64 (signOf negative) (0 : BitVec 11) (BitVec.ofNat 52 fraction) :=
    if_neg hbits
  rw [hpack, toNat_packComponents, BitVec.toNat_ofNat, Nat.mod_eq_of_lt (show fraction < 2 ^ 52 from hlt)]
  simp

/-- A mantissa with its leading bit is packed without it, and the exponent field says how high it stood. -/
theorem toNat_pack_normal (negative : Bool) {field fraction : Nat} (hfield : field < 2047)
    (hlt : fraction < leadingBit) (hpos : 0 < leadingBit + fraction) :
    (UnpackedFloat.pack .binary64
        (.finite (signOf negative) (leadingBit + fraction) ((field : Int) - 1075) hpos)).toNat =
      signPart negative + (field * leadingBit + fraction) := by
  have hbits : (leadingBit + fraction).log2 + 1 = 53 := by
    rw [log2_mantissa_iff hpos (by omega)]
    omega
  have hexponent : ((field : Int) - 1075 + 1023 + 52).toNat = field := by omega
  have hpack : UnpackedFloat.pack .binary64
        (.finite (signOf negative) (leadingBit + fraction) ((field : Int) - 1075) hpos) =
      packComponents .binary64 (signOf negative) (BitVec.ofNat 11 field)
        (BitVec.ofNat 52 (leadingBit + fraction)) := by
    have hfits : ¬ 2 ^ 11 ≤ ((field : Int) - 1075 + 1023 + 52).toNat + 1 := by omega
    refine (if_neg hfits).trans ((if_pos hbits).trans ?_)
    exact congrArg (fun n => packComponents .binary64 (signOf negative) (BitVec.ofNat 11 n)
      (BitVec.ofNat 52 (leadingBit + fraction))) hexponent
  have hmantissa : (leadingBit + fraction) % 2 ^ 52 = fraction := by
    simp only [leadingBit] at hlt ⊢
    omega
  rw [hpack, toNat_packComponents, BitVec.toNat_ofNat, BitVec.toNat_ofNat, hmantissa,
    Nat.mod_eq_of_lt (show field < 2 ^ 11 by omega)]

/-- A word that stands for a number is packed again from what is read of it. -/
theorem toNat_pack_unpacked {w : Nat} (hw : w < 2 * signBit) (h : Reading.ofWord w ≠ .notANumber) :
    (UnpackedFloat.pack .binary64 (Reading.ofWord w).unpacked).toNat = w := by
  have hword := word_eq hw
  have hlt : w % leadingBit < leadingBit := Nat.mod_lt _ (by decide)
  have hbelow : w / leadingBit % 2048 < 2048 := Nat.mod_lt _ (by decide)
  revert h
  unfold Reading.ofWord
  -- from here on the word is its three fields
  generalize w / leadingBit % 2048 = field at *
  generalize w % leadingBit = fraction at *
  generalize decide (w / signBit = 1) = negative at *
  simp only
  split
  · next hfield =>
    split
    · next hzero =>
      intro _
      rw [← hword, hfield, hzero]
      exact toNat_packComponents negative (-1#11) 0
    · exact fun h => absurd rfl h
  · next hfield =>
    intro _
    split
    · next hzero =>
      rw [← hword, hzero]
      by_cases hnull : fraction = 0
      · rw [hnull]
        exact toNat_packComponents negative 0 0
      · have hpos : 0 < fraction := Nat.pos_of_ne_zero hnull
        rw [Reading.unpacked_of_pos _ _ hpos, toNat_pack_subnormal negative hpos hlt]
        omega
    · have hpos : 0 < leadingBit + fraction := Nat.add_pos_left (by decide) _
      rw [Reading.unpacked_of_pos _ _ hpos, toNat_pack_normal negative (by omega) hlt]
      exact hword

/-- A word that stands for a number is kept. -/
theorem toNat_toBits_ofBits {w : UInt64} (h : Reading.ofWord w.toNat ≠ .notANumber) :
    (Float.ofBits w).toBits.toNat = w.toNat := by
  change (UnpackedFloat.pack .binary64 (UnpackedFloat.unpack .binary64 w.toBitVec)).toNat = w.toNat
  rw [unpack_word]
  exact toNat_pack_unpacked w.toNat_lt h

end LayeredConfig.Binary64
