import Mathlib.Algebra.Order.Ring.Int
import LayeredConfig.Proofs.Binary64.Word

/-!
# The order of floats

Floats are compared by sign, exponent and mantissa. `rank` numbers them in that order, both zeros by
zero and the infinities by the numbers next to those of the greatest finite ones, so that comparing two
floats that are numbers is comparing two integers (`lt_iff`, `beq_iff`, `compare?_eq`).
-/

namespace LayeredConfig.Binary64

open Float.Model

/-! ## Ranks -/

/-- The number of a magnitude, counted from zero. -/
def place (mantissa : Nat) (exponent : Int) : Int := (exponent + 1074) * leadingBit + mantissa

/-- An integer of this magnitude. -/
def signed (negative : Bool) (magnitude : Int) : Int := if negative then -magnitude else magnitude

@[simp] theorem signed_false (magnitude : Int) : signed false magnitude = magnitude := rfl

@[simp] theorem signed_true (magnitude : Int) : signed true magnitude = -magnitude := rfl

/-- The number of what is read, in order. -/
def Reading.rank : Reading → Int
  | notANumber => 0
  | infinite negative => signed negative (2047 * leadingBit)
  | finite negative mantissa exponent => signed negative (place mantissa exponent)

/-- The number of a float, in order. -/
def rank (x : Float) : Int := (Reading.ofFloat x).rank

section

variable {m n : Nat} {e f : Int}

/-- Every finite magnitude is counted below that of infinity. -/
theorem Fits.place_lt (h : Fits m e) : place m e < 2047 * leadingBit := by
  obtain ⟨hlt, -, hle, -⟩ := h
  simp only [place, leadingBit] at *
  omega

theorem Fits.place_nonneg (h : Fits m e) : 0 ≤ place m e := by
  have hle := h.least
  simp only [place, leadingBit]
  omega

theorem Fits.place_pos (h : Fits m e) (hm : 0 < m) : 0 < place m e := by
  have hle := h.least
  simp only [place, leadingBit]
  omega

/-- A zero mantissa is read with the least exponent only, so zero is counted as zero. -/
theorem Fits.place_zero (h : Fits 0 e) : place 0 e = 0 := by
  rcases h.leading with hleading | rfl
  · exact absurd hleading (by decide)
  · rfl

/-- The greater exponent makes the greater number, and else the greater mantissa does. -/
theorem compare_place (hm : Fits m e) (hn : Fits n f) :
    (compare e f).then (compare m n) = compare (place m e) (place n f) := by
  obtain ⟨hmlt, hele, -, hmleading⟩ := hm
  obtain ⟨hnlt, hfle, -, hnleading⟩ := hn
  rcases lt_trichotomy e f with hef | rfl | hef
  · have hplace : place m e < place n f := by
      simp only [place, leadingBit] at *
      omega
    rw [compare_lt_iff_lt.2 hef, compare_lt_iff_lt.2 hplace]
    rfl
  · rw [compare_eq_iff_eq.2 rfl, Ordering.then]
    rcases lt_trichotomy m n with hmn | rfl | hmn
    · rw [compare_lt_iff_lt.2 hmn, compare_lt_iff_lt.2 (by simpa [place] using hmn)]
    · rw [compare_eq_iff_eq.2 rfl, compare_eq_iff_eq.2 rfl]
    · rw [compare_gt_iff_gt.2 hmn, compare_gt_iff_gt.2 (by simpa [place] using hmn)]
  · have hplace : place n f < place m e := by
      simp only [place, leadingBit] at *
      omega
    rw [compare_gt_iff_gt.2 hef, compare_gt_iff_gt.2 hplace]
    rfl

end

/-! ## Comparing what is unpacked -/

namespace Reading

theorem some_lt {m n : Int} (h : m < n) : some Ordering.lt = some (compare m n) :=
  congrArg some (compare_lt_iff_lt.2 h).symm

theorem some_gt {m n : Int} (h : n < m) : some Ordering.gt = some (compare m n) :=
  congrArg some (compare_gt_iff_gt.2 h).symm

/-- Negating both sides turns a comparison around. -/
theorem compare_neg (m n : Int) : compare (-m) (-n) = (compare m n).swap := by
  rcases lt_trichotomy m n with h | rfl | h
  · rw [compare_lt_iff_lt.2 h, compare_gt_iff_gt.2 (Int.neg_lt_neg h)]
    rfl
  · rw [compare_eq_iff_eq.2 rfl, compare_eq_iff_eq.2 rfl]
    rfl
  · rw [compare_gt_iff_gt.2 h, compare_lt_iff_lt.2 (Int.neg_lt_neg h)]
    rfl

variable {s t : Bool} {m n : Nat} {e f : Int}

/-- A finite float is numbered strictly between the infinities. -/
theorem abs_rank_lt (h : Fits m e) :
    -(2047 * leadingBit) < (finite s m e).rank ∧ (finite s m e).rank < 2047 * leadingBit := by
  have hlt := h.place_lt
  have hnonneg := h.place_nonneg
  simp only [rank, signed, leadingBit] at *
  split <;> omega

/-- An infinity compares with a finite number as their numbers do. -/
theorem compare_infinite_finite (h : Fits n f) :
    (infinite s).unpacked.compare (finite t n f).unpacked =
      some (compare (infinite s).rank (finite t n f).rank) := by
  obtain ⟨hgt, hlt⟩ := abs_rank_lt (s := t) h
  rcases Nat.eq_zero_or_pos n with rfl | hpos
  · cases s with
    | false => exact some_gt hlt
    | true => exact some_lt hgt
  · rw [unpacked_of_pos _ _ hpos]
    cases s with
    | false => exact some_gt hlt
    | true => exact some_lt hgt

theorem compare_finite_infinite (h : Fits m e) :
    (finite s m e).unpacked.compare (infinite t).unpacked =
      some (compare (finite s m e).rank (infinite t).rank) := by
  obtain ⟨hgt, hlt⟩ := abs_rank_lt (s := s) h
  rcases Nat.eq_zero_or_pos m with rfl | hpos
  · cases t with
    | false => cases s <;> exact some_lt hlt
    | true => cases s <;> exact some_gt hgt
  · rw [unpacked_of_pos _ _ hpos]
    cases t with
    | false => cases s <;> exact some_lt hlt
    | true => cases s <;> exact some_gt hgt

/-- Two finite numbers, zeros of either sign among them, compare as their numbers do. -/
theorem compare_finite_finite (hm : Fits m e) (hn : Fits n f) :
    (finite s m e).unpacked.compare (finite t n f).unpacked =
      some (compare (finite s m e).rank (finite t n f).rank) := by
  rw [rank, rank, signed, signed]
  -- zeros are unpacked apart from other numbers, with a sign that does not count
  rcases Nat.eq_zero_or_pos m with rfl | hmpos <;> rcases Nat.eq_zero_or_pos n with rfl | hnpos
  · rw [hm.place_zero, hn.place_zero]
    cases s <;> cases t <;> rfl
  · have hpos := hn.place_pos hnpos
    rw [hm.place_zero, unpacked_zero, unpacked_of_pos _ _ hnpos]
    cases t with
    | false => cases s <;> exact some_lt hpos
    | true => cases s <;> exact some_gt (Int.neg_neg_of_pos hpos)
  · have hpos := hm.place_pos hmpos
    rw [hn.place_zero, unpacked_zero, unpacked_of_pos _ _ hmpos]
    cases s with
    | false => cases t <;> exact some_gt hpos
    | true => cases t <;> exact some_lt (Int.neg_neg_of_pos hpos)
  · have hmplace := hm.place_pos hmpos
    have hnplace := hn.place_pos hnpos
    rw [unpacked_of_pos _ _ hmpos, unpacked_of_pos _ _ hnpos]
    cases s <;> cases t
    · exact congrArg some (compare_place hm hn)
    · exact some_gt (lt_trans (Int.neg_neg_of_pos hnplace) hmplace)
    · exact some_lt (lt_trans (Int.neg_neg_of_pos hmplace) hnplace)
    · rw [if_pos rfl, if_pos rfl, compare_neg, ← compare_place hm hn]
      rfl

end Reading

/-! ## Comparing floats -/

variable {x y : Float}

/-- A float is a number unless it is read as none. -/
theorem isNaN_eq_false_iff : x.isNaN = false ↔ Reading.ofFloat x ≠ .notANumber := by
  change x.toModel.unpack.isNaN = false ↔ _
  rw [unpack_eq]
  cases Reading.ofFloat x with
  | notANumber => exact iff_of_false Bool.noConfusion fun h => h rfl
  | infinite s => exact iff_of_true rfl nofun
  | finite s m e =>
    refine iff_of_true ?_ nofun
    rcases Nat.eq_zero_or_pos m with rfl | hpos
    · rfl
    · rw [Reading.unpacked_of_pos _ _ hpos]
      rfl

/-- Floats that are numbers compare like their ranks. -/
theorem compare_unpack (hx : x.isNaN = false) (hy : y.isNaN = false) :
    x.toModel.unpack.compare y.toModel.unpack = some (compare (rank x) (rank y)) := by
  rw [isNaN_eq_false_iff] at hx hy
  rw [unpack_eq, unpack_eq, rank, rank]
  have hfits {z : Float} {s : Bool} {m : Nat} {e : Int} := @fits_of_reading z s m e
  generalize hreadx : Reading.ofFloat x = a at *
  generalize hready : Reading.ofFloat y = b at *
  cases a with
  | notANumber => exact absurd rfl hx
  | infinite s =>
    cases b with
    | notANumber => exact absurd rfl hy
    | infinite t => cases s <;> cases t <;> rfl
    | finite t n f => exact Reading.compare_infinite_finite (hfits hready)
  | finite s m e =>
    cases b with
    | notANumber => exact absurd rfl hy
    | infinite t => exact Reading.compare_finite_infinite (hfits hreadx)
    | finite t n f => exact Reading.compare_finite_finite (hfits hreadx) (hfits hready)

/-- Among floats that are numbers, `<` is the order of their numbers. -/
theorem lt_iff (hx : x.isNaN = false) (hy : y.isNaN = false) : x < y ↔ rank x < rank y := by
  have hlt : x < y ↔ (x.toModel.unpack.compare y.toModel.unpack == some .lt) = true :=
    decide_eq_true_iff
  rw [hlt, compare_unpack hx hy, beq_iff_eq, Option.some_inj, compare_lt_iff_lt]

/-- Among floats that are numbers, `==` is equality of their numbers, so the two zeros are equal. -/
theorem beq_iff (hx : x.isNaN = false) (hy : y.isNaN = false) : x == y ↔ rank x = rank y := by
  change (x.toModel.unpack.compare y.toModel.unpack == some .eq) = true ↔ _
  rw [compare_unpack hx hy, beq_iff_eq, Option.some_inj, compare_eq_iff_eq]

/-- The order of two floats that are numbers is that of their ranks. -/
theorem compare?_eq (hx : x.isNaN = false) (hy : y.isNaN = false) :
    compare? x y = some (compare (rank x) (rank y)) := by
  simp only [compare?, lt_iff hx hy, beq_iff hx hy, lt_iff hy hx]
  rcases lt_trichotomy (rank x) (rank y) with h | h | h
  · rw [if_pos h, compare_lt_iff_lt.2 h]
  · rw [if_neg h.not_lt, if_pos h, compare_eq_iff_eq.2 h]
  · rw [if_neg h.not_gt, if_neg h.ne', if_pos h, compare_gt_iff_gt.2 h]

/-- Floats that compare at all are numbers. -/
theorem isNaN_of_compare_unpack {o : Ordering}
    (h : x.toModel.unpack.compare y.toModel.unpack = some o) : x.isNaN = false ∧ y.isNaN = false := by
  change x.toModel.unpack.isNaN = false ∧ y.toModel.unpack.isNaN = false
  generalize x.toModel.unpack = a at *
  generalize y.toModel.unpack = b at *
  cases a <;> cases b <;> first | exact ⟨rfl, rfl⟩ | cases h

/-- Floats that have an order are numbers. -/
theorem isNaN_of_compare? {o : Ordering} (h : compare? x y = some o) :
    x.isNaN = false ∧ y.isNaN = false := by
  have hlt {x y : Float} (h : x < y) : x.toModel.unpack.compare y.toModel.unpack = some .lt :=
    beq_iff_eq.1 (decide_eq_true_iff.1 h)
  rw [compare?] at h
  split at h
  · next hxy => exact isNaN_of_compare_unpack (hlt hxy)
  split at h
  · next heq => exact isNaN_of_compare_unpack (beq_iff_eq.1 heq)
  split at h
  · next hyx => exact (isNaN_of_compare_unpack (hlt hyx)).symm
  · cases h

end LayeredConfig.Binary64
