import Mathlib.Tactic.Ring
import LayeredConfig.Proofs.Binary64.Order

/-!
# Rounding integers to floats

`pack` makes the float of a mantissa and an exponent; `reading_pack` reads them back, and `rank_pack` says
where the float stands among the others. An integer keeps its leading 53 bits, rounded to the nearest
(`ofRatio_one`). So one below `2 ^ 53` is kept as it is (`reading_ofRatio_of_lt`), and a greater integer
never becomes a lesser float (`rank_ofInt_mono`).
-/

namespace LayeredConfig.Binary64

/-! ## The float of a mantissa and an exponent -/

/-- A magnitude up to infinity and a sign make a word of 64 bits. -/
theorem signPart_add_lt (negative : Bool) {n : Nat} (h : n ≤ 2047 * leadingBit) :
    signPart negative + n < 2 * signBit := by
  simp only [leadingBit] at h
  cases negative <;> simp only [signPart_false, signPart_true, signBit] <;> omega

theorem signPart_add_mod (negative : Bool) {n : Nat} (h : n ≤ 2047 * leadingBit) :
    (signPart negative + n) % signBit = n := by
  simp only [leadingBit] at h
  cases negative <;> simp only [signPart_false, signPart_true, signBit] <;> omega

theorem decide_signPart_add (negative : Bool) {n : Nat} (h : n ≤ 2047 * leadingBit) :
    decide ((signPart negative + n) / signBit = 1) = negative := by
  simp only [leadingBit] at h
  cases negative <;> simp only [signPart_false, signPart_true, signBit] <;> simp <;> omega

section

variable {m : Nat} {e : Int}

/-- The word of a packed float counts its magnitude, cut off at infinity. -/
theorem toNat_toBits_pack (negative : Bool) (hleast : -1074 ≤ e) (hleading : leadingBit ≤ m ∨ e = -1074) :
    (pack negative m e).toBits.toNat =
      signPart negative + min (place m e).toNat (2047 * leadingBit) := by
  have hplace : (if m < leadingBit then m else (e + 1075).toNat * leadingBit + (m - leadingBit)) =
      (place m e).toNat := by
    simp only [place]
    split
    · simp only [leadingBit] at *
      omega
    · simp only [leadingBit] at *
      omega
  have hmagnitude := Nat.min_le_right (place m e).toNat (2047 * leadingBit)
  simp only [pack, hplace]
  generalize min (place m e).toNat (2047 * leadingBit) = magnitude at *
  have hword : (UInt64.ofNat (signPart negative + magnitude)).toNat = signPart negative + magnitude :=
    UInt64.toNat_ofNat_of_lt' (signPart_add_lt negative hmagnitude)
  change (Float.ofBits (UInt64.ofNat (signPart negative + magnitude))).toBits.toNat = _
  rw [toNat_toBits_ofBits, hword]
  rw [hword]
  refine Reading.ofWord_ne_notANumber ?_
  rwa [signPart_add_mod negative hmagnitude]

theorem isNaN_pack (negative : Bool) (hleast : -1074 ≤ e) (hleading : leadingBit ≤ m ∨ e = -1074) :
    (pack negative m e).isNaN = false := by
  have hmagnitude := Nat.min_le_right (place m e).toNat (2047 * leadingBit)
  rw [isNaN_eq_false_iff, Reading.ofFloat_eq, toNat_toBits_pack negative hleast hleading]
  refine Reading.ofWord_ne_notANumber ?_
  rwa [signPart_add_mod negative hmagnitude]

/-- The magnitude of a word is its number among the magnitudes. -/
theorem Reading.rank_ofWord (negative : Bool) {n : Nat} (h : n ≤ 2047 * leadingBit) :
    (ofWord (signPart negative + n)).rank = signed negative n := by
  have hword := word_eq (signPart_add_lt negative h)
  simp only [ofWord]
  rw [decide_signPart_add negative h] at *
  generalize (signPart negative + n) / leadingBit % 2048 = field at *
  generalize (signPart negative + n) % leadingBit = fraction at *
  obtain rfl : field * leadingBit + fraction = n := Nat.add_left_cancel hword
  split
  · next hfield =>
    subst hfield
    obtain rfl : fraction = 0 := by omega
    rfl
  · split
    · next hfield =>
      subst hfield
      simp [rank, place]
    · rw [rank, place]
      congr 1
      push_cast
      ring

/-- A packed float is numbered by its magnitude, cut off at infinity. -/
theorem rank_pack (negative : Bool) (hleast : -1074 ≤ e) (hleading : leadingBit ≤ m ∨ e = -1074) :
    rank (pack negative m e) = signed negative (min (place m e) (2047 * leadingBit)) := by
  have hnonneg : 0 ≤ place m e := by
    simp only [place, leadingBit]
    omega
  rw [rank, Reading.ofFloat_eq, toNat_toBits_pack negative hleast hleading,
    Reading.rank_ofWord negative (Nat.min_le_right _ _)]
  congr 1
  omega

/-- A mantissa and an exponent that fit are kept. -/
theorem reading_pack (negative : Bool) (h : Fits m e) :
    Reading.ofFloat (pack negative m e) = .finite negative m e := by
  have hplace := h.place_lt
  have hnonneg := h.place_nonneg
  have hle : (place m e).toNat ≤ 2047 * leadingBit := by omega
  have hword := word_eq (signPart_add_lt negative hle)
  rw [Reading.ofFloat_eq, toNat_toBits_pack negative h.least h.leading, Nat.min_eq_left hle,
    Reading.ofWord]
  rw [decide_signPart_add negative hle] at hword ⊢
  have hfraction := Nat.mod_lt (signPart negative + (place m e).toNat) (show 0 < leadingBit by decide)
  generalize (signPart negative + (place m e).toNat) / leadingBit % 2048 = field at *
  generalize (signPart negative + (place m e).toNat) % leadingBit = fraction at *
  -- the fields of the word are the digits of the place to the base of the leading bit
  have hsum : field * leadingBit + fraction = (place m e).toNat := Nat.add_left_cancel hword
  obtain ⟨hlt, hleast, hgreatest, hleading⟩ := h
  rw [if_neg (by simp only [leadingBit] at *; omega)]
  split
  all_goals
    rw [Reading.finite.injEq]
    refine ⟨rfl, ?_⟩
    simp only [place, leadingBit] at *
    omega

end

/-! ## The nearest integer to a fraction -/

section

variable {num den a : Nat}

theorem nearestEven_one (n : Nat) : nearestEven n 1 = n := by
  simp [nearestEven, Nat.mod_one]

/-- Rounding does not pass an integer that was below. -/
theorem le_nearestEven (hden : 0 < den) (h : a * den ≤ num) : a ≤ nearestEven num den := by
  have hquotient : a ≤ num / den := (Nat.le_div_iff_mul_le hden).2 h
  simp only [nearestEven]
  split_ifs <;> omega

/-- Rounding does not pass an integer that was above. -/
theorem nearestEven_le (hden : 0 < den) (h : num ≤ a * den) : nearestEven num den ≤ a := by
  have hquotient : num / den ≤ a := Nat.div_le_of_le_mul (by rwa [Nat.mul_comm])
  have hsplit : den * (num / den) + num % den = num := Nat.div_add_mod num den
  have hexact : num / den = a → num % den = 0 := by
    rintro rfl
    rw [Nat.mul_comm] at h
    omega
  simp only [nearestEven]
  split_ifs <;> omega

/-- Rounding keeps the order of two fractions with one denominator. -/
theorem nearestEven_mono {num' : Nat} (hden : 0 < den) (h : num ≤ num') :
    nearestEven num den ≤ nearestEven num' den := by
  rcases Nat.lt_or_eq_of_le (Nat.div_le_div_right h : num / den ≤ num' / den) with hlt | heq
  · calc nearestEven num den ≤ num / den + 1 :=
          nearestEven_le hden (Nat.le_of_lt (Nat.lt_mul_of_div_lt (Nat.lt_succ_self _) hden))
      _ ≤ num' / den := hlt
      _ ≤ nearestEven num' den := le_nearestEven hden (Nat.div_mul_le_self num' den)
  · -- with equal quotients the remainders decide
    have hmod : num % den ≤ num' % den := by
      have hnum := Nat.div_add_mod num den
      have hnum' := Nat.div_add_mod num' den
      rw [heq] at hnum
      omega
    simp only [nearestEven, heq]
    split_ifs <;> omega

end

/-! ## The float nearest to a natural number -/

/-- The leading 53 bits of a positive number, rounded. -/
def leadingBits (n : Nat) : Nat := nearestEven (n * 2 ^ (52 - n.log2)) (2 ^ (n.log2 - 52))

section

variable {n : Nat}

theorem leadingBit_eq : leadingBit = 2 ^ 52 := rfl

/-- Scaling an integer by its own magnitude leaves 53 bits before the point, whichever way it has to be
shifted. -/
theorem scaled_log2 (n : Nat) :
    scaled n 1 ((n.log2 : Int) - 52) = (n * 2 ^ (52 - n.log2), 2 ^ (n.log2 - 52)) := by
  unfold scaled
  split
  · have hexponent : ((n.log2 : Int) - 52).toNat = n.log2 - 52 := by omega
    have hnone : 52 - n.log2 = 0 := by omega
    rw [hexponent, hnone, Nat.pow_zero, Nat.mul_one, Nat.one_mul, Nat.pow_eq]
  · have hexponent : (-((n.log2 : Int) - 52)).toNat = 52 - n.log2 := by omega
    have hnone : n.log2 - 52 = 0 := by omega
    rw [hexponent, hnone, Nat.pow_zero, Nat.pow_eq]

/-- The scaled integer reaches the leading bit. -/
theorem leadingBit_mul_le (hpos : 0 < n) :
    leadingBit * 2 ^ (n.log2 - 52) ≤ n * 2 ^ (52 - n.log2) := by
  calc leadingBit * 2 ^ (n.log2 - 52) = 2 ^ n.log2 * 2 ^ (52 - n.log2) := by
        rw [leadingBit_eq, ← Nat.pow_add, ← Nat.pow_add]
        congr 1
        omega
    _ ≤ n * 2 ^ (52 - n.log2) := Nat.mul_le_mul_right _ (Nat.log2_self_le hpos.ne')

theorem mul_lt_leadingBit_mul (n : Nat) :
    n * 2 ^ (52 - n.log2) < 2 * leadingBit * 2 ^ (n.log2 - 52) := by
  calc n * 2 ^ (52 - n.log2) < 2 ^ (n.log2 + 1) * 2 ^ (52 - n.log2) :=
        Nat.mul_lt_mul_of_pos_right Nat.lt_log2_self (Nat.two_pow_pos _)
    _ = 2 * leadingBit * 2 ^ (n.log2 - 52) := by
        rw [leadingBit_eq, ← Nat.pow_succ', ← Nat.pow_add, ← Nat.pow_add]
        congr 1
        omega

/-- The rounded leading bits still reach `2 ^ 52`. -/
theorem leadingBit_le_leadingBits (hpos : 0 < n) : leadingBit ≤ leadingBits n :=
  le_nearestEven (Nat.two_pow_pos _) (leadingBit_mul_le hpos)

/-- Rounding up goes to `2 ^ 53` at most. -/
theorem leadingBits_le (n : Nat) : leadingBits n ≤ 2 * leadingBit :=
  nearestEven_le (Nat.two_pow_pos _) (Nat.le_of_lt (mul_lt_leadingBit_mul n))

/-- A positive number keeps its leading bits. -/
theorem ofRatio_one (negative : Bool) (hpos : 0 < n) :
    ofRatio negative n 1 = pack negative (leadingBits n) ((n.log2 : Int) - 52) := by
  have hguess : max ((n.log2 : Int) - (1 : Nat).log2 - 52) (-1074) = (n.log2 : Int) - 52 := by
    rw [show (1 : Nat).log2 = 0 by rfl]
    omega
  have hleading : ¬ n * 2 ^ (52 - n.log2) / 2 ^ (n.log2 - 52) < leadingBit :=
    Nat.not_lt.2 ((Nat.le_div_iff_mul_le (Nat.two_pow_pos _)).2 (leadingBit_mul_le hpos))
  unfold ofRatio
  rw [if_neg hpos.ne']
  simp only [hguess, scaled_log2, if_neg hleading]
  rfl

/-- An integer of at most 53 bits is not rounded. -/
theorem leadingBits_of_lt (h : n < 2 * leadingBit) : leadingBits n = n * 2 ^ (52 - n.log2) := by
  have hlog : n.log2 ≤ 52 := by
    rcases Nat.eq_zero_or_pos n with rfl | hpos
    · decide
    · exact Nat.le_of_lt_succ ((Nat.log2_lt hpos.ne').2 h)
  rw [leadingBits, Nat.sub_eq_zero_of_le hlog, Nat.pow_zero, nearestEven_one]

/-- A positive number of at most 53 bits is kept. -/
theorem reading_ofRatio_of_lt (negative : Bool) (hpos : 0 < n) (h : n < 2 * leadingBit) :
    Reading.ofFloat (ofRatio negative n 1) =
      .finite negative (n * 2 ^ (52 - n.log2)) ((n.log2 : Int) - 52) := by
  have hlog : n.log2 < 53 := (Nat.log2_lt hpos.ne').2 h
  have hnone : n.log2 - 52 = 0 := by omega
  have hleading := leadingBit_mul_le hpos
  have hlt := mul_lt_leadingBit_mul n
  rw [hnone, Nat.pow_zero, Nat.mul_one] at hleading hlt
  rw [ofRatio_one negative hpos, leadingBits_of_lt h]
  exact reading_pack negative ⟨hlt, by omega, by omega, .inl hleading⟩

theorem ofRatio_zero (negative : Bool) (den : Nat) : ofRatio negative 0 den = pack negative 0 (-1074) :=
  if_pos rfl

theorem fits_zero : Fits 0 (-1074) := ⟨by decide, by decide, by decide, .inr rfl⟩

/-- The magnitude of an integer part. -/
def wholePart (mantissa : Nat) (exponent : Int) : Nat :=
  if 0 ≤ exponent then mantissa * 2 ^ exponent.toNat else mantissa / 2 ^ (-exponent).toNat

/-- The integer part of a finite float has its sign and the whole part of its magnitude. -/
theorem truncate?_of_reading {x : Float} {negative : Bool} {m : Nat} {e : Int}
    (h : Reading.ofFloat x = .finite negative m e) :
    truncate? x = some (signed negative (wholePart m e)) := by
  rw [truncate?, h]
  rfl

/-- A natural number of at most 53 bits is its own integer part, with either sign. -/
theorem truncate?_ofRatio_of_lt (negative : Bool) (h : n < 2 * leadingBit) :
    truncate? (ofRatio negative n 1) = some (signed negative n) := by
  rcases Nat.eq_zero_or_pos n with rfl | hpos
  · rw [ofRatio_zero, truncate?_of_reading (reading_pack negative fits_zero), wholePart,
      if_neg (by decide), Nat.zero_div]
  · rw [truncate?_of_reading (reading_ofRatio_of_lt negative hpos h)]
    congr 3
    rw [wholePart]
    split
    · have hexponent : ((n.log2 : Int) - 52).toNat = 0 := by
        have hlog : n.log2 < 53 := (Nat.log2_lt hpos.ne').2 h
        omega
      have hnone : 52 - n.log2 = 0 := by omega
      rw [hexponent, hnone, Nat.pow_zero, Nat.mul_one, Nat.mul_one]
    · have hexponent : (-((n.log2 : Int) - 52)).toNat = 52 - n.log2 := by omega
      rw [hexponent, Nat.mul_div_cancel _ (Nat.two_pow_pos _)]

/-! ## The float nearest to an integer -/

/-- The number of the float nearest to a natural number. -/
def nearestPlace (n : Nat) : Int :=
  if n = 0 then 0 else min (place (leadingBits n) ((n.log2 : Int) - 52)) (2047 * leadingBit)

/-- The mantissa and the exponent chosen for a positive integer are such as `pack` takes. -/
theorem leadingBits_lead (hpos : 0 < n) :
    -1074 ≤ (n.log2 : Int) - 52 ∧ (leadingBit ≤ leadingBits n ∨ (n.log2 : Int) - 52 = -1074) :=
  ⟨by omega, .inl (leadingBit_le_leadingBits hpos)⟩

theorem isNaN_ofRatio_one (negative : Bool) (n : Nat) : (ofRatio negative n 1).isNaN = false := by
  rcases Nat.eq_zero_or_pos n with rfl | hpos
  · rw [ofRatio_zero]
    exact isNaN_pack negative fits_zero.least fits_zero.leading
  · obtain ⟨hleast, hleading⟩ := leadingBits_lead hpos
    rw [ofRatio_one negative hpos]
    exact isNaN_pack negative hleast hleading

/-- The float made of a natural number is numbered by the place nearest to it, under the sign. -/
theorem rank_ofRatio_one (negative : Bool) (n : Nat) :
    rank (ofRatio negative n 1) = signed negative (nearestPlace n) := by
  rcases Nat.eq_zero_or_pos n with rfl | hpos
  · rw [ofRatio_zero, rank, reading_pack negative fits_zero, Reading.rank, fits_zero.place_zero]
    rfl
  · obtain ⟨hleast, hleading⟩ := leadingBits_lead hpos
    rw [ofRatio_one negative hpos, rank_pack negative hleast hleading, nearestPlace, if_neg hpos.ne']

theorem nearestPlace_nonneg (n : Nat) : 0 ≤ nearestPlace n := by
  unfold nearestPlace
  split
  · exact le_rfl
  · simp only [place, leadingBit]
    omega

/-- The leading bits of a number are those of no lesser place than the ones of a number below. -/
theorem place_leadingBits_mono {m : Nat} (hpos : 0 < m) (h : m ≤ n) :
    place (leadingBits m) ((m.log2 : Int) - 52) ≤ place (leadingBits n) ((n.log2 : Int) - 52) := by
  have hlog : m.log2 ≤ n.log2 := by
    rw [Nat.le_log2 (by omega)]
    exact (Nat.log2_self_le hpos.ne').trans h
  rcases Nat.lt_or_eq_of_le hlog with hlt | heq
  · -- rounding up goes at most to the next power of two, where the greater number begins
    have hm := leadingBits_le m
    have hn := leadingBit_le_leadingBits (hpos.trans_le h)
    simp only [place, leadingBit] at *
    omega
  · have hbits : leadingBits m ≤ leadingBits n := by
      simp only [leadingBits, heq]
      exact nearestEven_mono (Nat.two_pow_pos _) (Nat.mul_le_mul_right _ h)
    simp only [place, heq]
    omega

/-- Of two natural numbers the smaller has the float that is not above the other's. -/
theorem nearestPlace_mono {m : Nat} (h : m ≤ n) : nearestPlace m ≤ nearestPlace n := by
  rcases Nat.eq_zero_or_pos m with rfl | hpos
  · exact nearestPlace_nonneg n
  · have hplace := place_leadingBits_mono hpos h
    rw [nearestPlace, nearestPlace, if_neg hpos.ne', if_neg (hpos.trans_le h).ne']
    omega

/-- Every integer becomes a number. -/
theorem isNaN_ofInt (i : Int) : (ofInt i).isNaN = false := isNaN_ofRatio_one _ _

/-- The greater of two integers does not become the lesser float. -/
theorem rank_ofInt_mono {i j : Int} (h : i ≤ j) : rank (ofInt i) ≤ rank (ofInt j) := by
  rw [ofInt, ofInt, rank_ofRatio_one, rank_ofRatio_one]
  have hi := nearestPlace_nonneg i.natAbs
  have hj := nearestPlace_nonneg j.natAbs
  by_cases hneg : j < 0
  · have hmono := nearestPlace_mono (show j.natAbs ≤ i.natAbs by omega)
    rw [decide_eq_true hneg, decide_eq_true (by omega : i < 0), signed_true, signed_true]
    omega
  · rw [decide_eq_false hneg, signed_false]
    by_cases hneg' : i < 0
    · rw [decide_eq_true hneg', signed_true]
      omega
    · rw [decide_eq_false hneg', signed_false]
      exact nearestPlace_mono (by omega)

end

end LayeredConfig.Binary64
