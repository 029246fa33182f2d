import LayeredConfig.Cast.Function
import LayeredConfig.Descriptor.Convert
import LayeredConfig.Expr.Eval
import LayeredConfig.Proofs.Binary64.Fraction
import LayeredConfig.Proofs.Expr.Arithmetic

/-!
# Floats as integers

Expressions make integers of floats by `int` and `round`, casts by the function `builtins.int`, and
descriptors where an integer is due. Each looks in its own way whether 64 bits hold the integer.
`converts` says what each of them gives for every float, and `convertsExactly_iff` that all of them give
the exact integer, or nothing where 64 bits do not hold it, unless the float is `2 ^ 63` or `-2 ^ 63`.
-/

namespace LayeredConfig

open Binary64 (toRat? truncate? towardZero halfAway rounds_towardZero rounds_halfAway)

/-- What is given for a float where integers are due: by `int` and `round` in an expression whose
argument is the float, by the function of casts, and by a descriptor. -/
structure Converts (x : Float) (part nearest function described : Option Int64) : Prop where
  int : ∀ (argument : Expr.Node) (v : Value), argument.eval v = .ok (.float x) →
    ((Expr.Node.call .int [argument]).eval v).toOption = part.map Value.integer
  round : ∀ (argument : Expr.Node) (v : Value), argument.eval v = .ok (.float x) →
    ((Expr.Node.call .round [argument]).eval v).toOption = nearest.map Value.integer
  function : (FunctionTable.builtins.call "builtins" "int" (.float x)).toOption =
    function.map Value.integer
  descriptor : (Descriptor.integer.convert (.float x)).toOption = described.map Value.integer

/-- The exact integer that the fraction of a float is rounded to, if it has one and 64 bits hold it. -/
def exactInt? (whole : ℚ → ℤ) (x : Float) : Option Int64 :=
  (toRat? x).bind fun q => Integer.ofInt? (whole q)

/-- What expressions give: the greatest integer for `2 ^ 63`, and the exact one else. -/
def lenientInt? (whole : ℚ → ℤ) (x : Float) : Option Int64 :=
  if toRat? x = some (2 ^ 63) then some Int64.maxValue else exactInt? whole x

/-- What casts and descriptors give: nothing for `-2 ^ 63`, and the exact integer else. -/
def strictInt? (x : Float) : Option Int64 :=
  if toRat? x = some (-2 ^ 63) then none else exactInt? towardZero x

/-- Everything that makes an integer of the float gives the exact one, or nothing if there is none. -/
def ConvertsExactly (x : Float) : Prop :=
  Converts x (exactInt? towardZero x) (exactInt? halfAway x) (exactInt? towardZero x)
    (exactInt? towardZero x)

/-! ## The looks at the range -/

namespace Expr

/-- Making an integer of a float lets `2 ^ 63` through, as the greatest integer. -/
theorem toOption_integral (y : Float) :
    (integral y).toOption = (truncate? y).bind fun n =>
      (if n = 2 ^ 63 then some Int64.maxValue else Integer.ofInt? n).map Value.integer := by
  rw [integral]
  cases truncate? y with
  | none => rfl
  | some n =>
    simp only [Option.bind_some]
    by_cases hbeyond : n = 2 ^ 63
    · subst hbeyond
      rfl
    · rw [if_neg hbeyond, Integer.ofInt?]
      have hgreatest : Integer.greatest + 1 = 2 ^ 63 := rfl
      by_cases hrange : Integer.least ≤ n ∧ n ≤ Integer.greatest
      · rw [if_pos hrange, if_pos (by omega), min_eq_left hrange.2]
        rfl
      · rw [if_neg hrange, if_neg (by omega)]
        rfl

end Expr

/-- Converting a float refuses `-2 ^ 63`, which 64 bits would hold. -/
theorem Convert.integerOfFloat?_eq_bind (x : Float) :
    integerOfFloat? x = (truncate? x).bind fun n => if n = -2 ^ 63 then none else Integer.ofInt? n := by
  rw [integerOfFloat?]
  cases truncate? x with
  | none => rfl
  | some n =>
    have hleast : Integer.least = -2 ^ 63 := rfl
    have hgreatest : Integer.greatest + 1 = 2 ^ 63 := rfl
    rw [Option.bind_some, Integer.ofInt?]
    simp only
    split
    · rw [if_neg (by omega), if_pos (by omega)]
    · split
      · rfl
      · rw [if_neg (by omega)]

section

variable {whole : ℚ → ℤ} {rule : Bool → ℕ → ℕ → ℕ}

/-- The look from the least integer to `2 ^ 63` lets one float through that has no exact integer. -/
theorem Expr.toOption_integral_roundBy (h : Binary64.Rounds whole rule) (x : Float) :
    (integral (Binary64.roundBy rule x)).toOption = (lenientInt? whole x).map Value.integer := by
  rw [toOption_integral, h.truncate?_roundBy, lenientInt?]
  cases hq : toRat? x with
  | none => rw [if_neg nofun, exactInt?, hq]; rfl
  | some q =>
    -- only the float `2 ^ 63` itself is rounded there
    have hbeyond : whole q = 2 ^ 63 ↔ q = 2 ^ 63 := by
      rw [h.eq_iff hq (by decide)]
      norm_num
    simp only [Option.map_some, Option.bind_some, exactInt?, hq, Option.some_inj, hbeyond]

/-- The look at the magnitude shuts one float out that has an exact integer. -/
theorem Convert.integerOfFloat?_eq (x : Float) : integerOfFloat? x = strictInt? x := by
  rw [integerOfFloat?_eq_bind, Binary64.truncate?_eq, strictInt?]
  cases hq : toRat? x with
  | none => rw [if_neg nofun, exactInt?, hq]; rfl
  | some q =>
    have hbeyond : towardZero q = -2 ^ 63 ↔ q = -2 ^ 63 := by
      rw [rounds_towardZero.eq_iff hq (by decide)]
      norm_num
    simp only [Option.map_some, Option.bind_some, exactInt?, hq, Option.some_inj, hbeyond]

end

/-- A float is below an integer if its integer part is. -/
theorem Binary64.magnitudeBelow_iff {x : Float} {negative : Bool} {m : ℕ} {e : ℤ} {limit : ℕ}
    (h : Reading.ofFloat x = .finite negative m e) :
    magnitudeBelow limit x = true ↔ wholePart m e < limit := by
  rw [magnitudeBelow, h, wholePart]
  simp only
  split
  · exact decide_eq_true_iff
  · rw [decide_eq_true_iff]
    exact (Nat.div_lt_iff_lt_mul (Nat.two_pow_pos _)).symm

/-- The magnitude of a float and that of its integer part are below the same integers. -/
theorem Convert.integerOfSmall?_eq (x : Float) : integerOfSmall? x = integerOfFloat? x := by
  rw [integerOfSmall?, integerOfFloat?]
  cases hread : Binary64.Reading.ofFloat x with
  | notANumber | infinite s => rw [truncate?, Binary64.magnitudeBelow, hread]; rfl
  | finite s m e =>
    have habs : (Binary64.signed s (Binary64.wholePart m e)).natAbs = Binary64.wholePart m e := by
      cases s <;> simp
    simp only [Binary64.magnitudeBelow_iff hread, Binary64.truncate?_of_reading hread, Option.map_some,
      habs]

/-! ## The conversions -/

/-- Each conversion gives what its look at the range lets through. -/
theorem converts (x : Float) :
    Converts x (lenientInt? towardZero x) (lenientInt? halfAway x) (strictInt? x) (strictInt? x) where
  int argument v h := by
    rw [← Expr.toOption_integral_roundBy rounds_towardZero]
    simp only [Expr.Node.eval, Expr.evalAll, h]
    rfl
  round argument v h := by
    rw [← Expr.toOption_integral_roundBy rounds_halfAway]
    simp only [Expr.Node.eval, Expr.evalAll, h]
    rfl
  function := by
    rw [← Convert.integerOfFloat?_eq, ← Convert.integerOfSmall?_eq]
    change (Function.toInteger (.float x)).toOption = _
    rw [Function.toInteger]
    cases Convert.integerOfSmall? x <;> rfl
  descriptor := by
    rw [← Convert.integerOfFloat?_eq]
    change (Descriptor.integer.convertScalar (.float x)).toOption = _
    rw [Descriptor.convertScalar, Descriptor.scalar?]
    cases Convert.integerOfFloat? x <;> rfl

/-- A float has one set of results. -/
theorem Converts.unique {x : Float} {a b c d a' b' c' d' : Option Int64} (h : Converts x a b c d)
    (h' : Converts x a' b' c' d') : a = a' ∧ b = b' ∧ c = c' ∧ d = d' := by
  have hinj := Option.map_injective (f := Value.integer) fun _ _ => Value.integer.inj
  exact ⟨hinj ((h.int .var _ rfl).symm.trans (h'.int .var _ rfl)),
    hinj ((h.round .var _ rfl).symm.trans (h'.round .var _ rfl)),
    hinj (h.function.symm.trans h'.function), hinj (h.descriptor.symm.trans h'.descriptor)⟩

/-- A float that is an integer is kept by every rounding, so only its range matters. -/
theorem exactInt?_of_toRat? {whole : ℚ → ℤ} {rule : Bool → ℕ → ℕ → ℕ} (h : Binary64.Rounds whole rule)
    {x : Float} {n : ℤ} (hx : toRat? x = some (n : ℚ)) : exactInt? whole x = Integer.ofInt? n := by
  rw [exactInt?, hx, Option.bind_some, h.intCast]

/-- Two floats are not converted exactly. In an expression `2 ^ 63` becomes the greatest integer; elsewhere
`-2 ^ 63` is refused. -/
theorem convertsExactly_iff (x : Float) :
    Converts x (lenientInt? towardZero x) (lenientInt? halfAway x) (strictInt? x) (strictInt? x) ∧
      (ConvertsExactly x ↔ toRat? x ≠ some (2 ^ 63) ∧ toRat? x ≠ some (-2 ^ 63)) := by
  refine ⟨converts x, fun hexact => ⟨fun hx => ?_, fun hx => ?_⟩, fun ⟨hnot, hnot'⟩ => ?_⟩
  · have hint := ((converts x).unique hexact).1
    have hnone : exactInt? towardZero x = none :=
      exactInt?_of_toRat? rounds_towardZero (n := 2 ^ 63) (mod_cast hx)
    rw [lenientInt?, if_pos hx, hnone] at hint
    cases hint
  · have hfunction := ((converts x).unique hexact).2.2.1
    have hsome : exactInt? towardZero x = some Int64.minValue :=
      exactInt?_of_toRat? rounds_towardZero (n := -2 ^ 63) (mod_cast hx)
    rw [strictInt?, if_pos hx, hsome] at hfunction
    cases hfunction
  · have h := converts x
    rwa [lenientInt?, lenientInt?, strictInt?, if_neg hnot, if_neg hnot, if_neg hnot'] at h

/-- The float `2 ^ 63` is one of those that are not converted exactly. -/
theorem not_convertsExactly_twoPow63 : ¬ ConvertsExactly (Float.ofBits 0x43e0000000000000) := by
  intro hexact
  have hread : Binary64.Reading.ofFloat (Float.ofBits 0x43e0000000000000) =
      .finite false Binary64.leadingBit 11 := by decide
  have hvalue : toRat? (Float.ofBits 0x43e0000000000000) = some ((2 ^ 63 : ℤ) : ℚ) := by
    rw [Binary64.toRat?_of_reading hread, Binary64.signedRat, Binary64.leadingBit]
    norm_num
  have hint := ((converts (Float.ofBits 0x43e0000000000000)).unique hexact).1
  rw [lenientInt?, if_pos (mod_cast hvalue), exactInt?_of_toRat? rounds_towardZero hvalue] at hint
  cases hint

end LayeredConfig
