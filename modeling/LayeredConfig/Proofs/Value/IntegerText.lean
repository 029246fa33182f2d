import LayeredConfig.Proofs.Descriptor.Casting
import LayeredConfig.Proofs.Expr.Overflow
import LayeredConfig.Proofs.Expr.RoundTrip
import Mathlib.Data.List.TakeWhile

/-!
# Integers written as text

Four readers make integers of text: the function `int` of expressions, `builtins.int` of casts, the
descriptor of integers, and an expression that is nothing but the text. The first three take a sign and
digits at once. To an expression the sign is an operator before a literal, and the literal has to be an
integer by itself: so it reads back every integer but the least, whose magnitude 64 bits do not hold
(`readBack_iff`).
-/

namespace LayeredConfig

open LayeredConfig.Text (isBlank isDigit trim trimChars)

/-- The text is that of the integer, perhaps with white space around it. -/
def Writes (text : String) (i : Int64) : Prop :=
  ∃ before after : List Char, text.toList = before ++ (Value.integer i).text.toList ++ after ∧
    (∀ c ∈ before, isBlank c = true) ∧ ∀ c ∈ after, isBlank c = true

/-- The text of the integer, which `str` gives, is read as the integer by the three conversions. -/
structure ConvertsBack (text : String) (i : Int64) : Prop where
  str : (Expr.Node.call .str [.var]).eval (.integer i) = .ok (.string (Value.integer i).text)
  int : (Expr.Node.call .int [.var]).eval (.string text) = .ok (.integer i)
  function : FunctionTable.builtins.call "builtins" "int" (.string text) = .ok (.integer i)
  descriptor : Descriptor.integer.convert (.string text) = .ok (.integer i)

/-- The text of the integer is read as the integer by all four readers. -/
structure ReadBack (text : String) (i : Int64) : Prop extends ConvertsBack text i where
  expression : ∃ expr, Expr.parse text = .ok expr ∧ ∀ x, expr.eval x = .ok (.integer i)

/-! ## White space at the ends -/

section

variable {before after s : List Char}

theorem dropWhile_isBlank (h : ∀ c ∈ s, isBlank c = false) : s.dropWhile isBlank = s := by
  cases s with
  | nil => rfl
  | cons c s => exact List.dropWhile_cons_of_neg (by simp [h c List.mem_cons_self])

/-- The characters between the white space at the ends are left. -/
theorem trimChars_append (hbefore : ∀ c ∈ before, isBlank c = true) (hs : ∀ c ∈ s, isBlank c = false)
    (hafter : ∀ c ∈ after, isBlank c = true) : trimChars (before ++ s ++ after) = s := by
  have hreverse : (after.reverse ++ s.reverse).dropWhile isBlank = s.reverse := by
    rw [List.dropWhile_append_of_pos fun c hc => hafter c (List.mem_reverse.1 hc)]
    exact dropWhile_isBlank fun c hc => hs c (List.mem_reverse.1 hc)
  rw [trimChars, List.append_assoc, List.dropWhile_append_of_pos hbefore]
  cases s with
  | nil =>
    rw [List.nil_append, List.dropWhile_eq_nil_iff.2 hafter]
    rfl
  | cons c s =>
    have hfirst : isBlank c = false := hs c List.mem_cons_self
    rw [List.cons_append, List.dropWhile_cons_of_neg (by simp [hfirst]), ← List.cons_append,
      List.reverse_append, hreverse, List.reverse_reverse]

end

/-! ## The text of an integer -/

/-- An integer is written as its digits, after a minus if it is negative. -/
theorem toList_text_integer (i : Int64) : (Value.integer i).text.toList =
    if i.toInt < 0 then '-' :: Decimal.digitsOf i.toInt.natAbs else Decimal.digitsOf i.toInt.natAbs := by
  rw [Value.text, Decimal.ofInteger, String.toList_ofList]

/-- The text of an integer has no white space. -/
theorem isBlank_of_mem_text {i : Int64} {c : Char} (h : c ∈ (Value.integer i).text.toList) :
    isBlank c = false := by
  rw [toList_text_integer] at h
  split at h
  · rcases List.mem_cons.1 h with rfl | h
    · decide
    · exact Expr.isBlank_of_isDigit (Expr.isDigit_of_mem_digitsOf h)
  · exact Expr.isBlank_of_isDigit (Expr.isDigit_of_mem_digitsOf h)

/-- The text of an integer reads as the integer. -/
theorem integerChars?_text (i : Int64) :
    Decimal.integerChars? (Value.integer i).text.toList = some i := by
  rw [toList_text_integer]
  split
  · next h =>
    have hsign : Decimal.splitSign ('-' :: Decimal.digitsOf i.toInt.natAbs) =
        (true, Decimal.digitsOf i.toInt.natAbs) := rfl
    rw [Expr.integerChars?_of_splitSign hsign, if_pos rfl, Int.ofNat_natAbs_of_nonpos (by omega),
      Int.neg_neg, Integer.ofInt?_toInt]
  · next h => exact Expr.integerChars?_digitsOf (Int.not_lt.1 h)

/-- With white space at its ends, the text of an integer reads as the integer. -/
theorem integer?_trim {text : String} {i : Int64} (h : Writes text i) :
    Decimal.integer? (trim text) = some i := by
  obtain ⟨before, after, htext, hbefore, hafter⟩ := h
  rw [trim, htext, trimChars_append hbefore (fun c => isBlank_of_mem_text) hafter, Decimal.integer?,
    String.toList_ofList, integerChars?_text]

/-- The conversions take the text of every integer back to it. -/
theorem convertsBack {text : String} {i : Int64} (h : Writes text i) : ConvertsBack text i := by
  have hread := integer?_trim h
  have hscalar : Descriptor.integer.scalar? (.string text) = some (.integer i) := by
    rw [Descriptor.scalar?, hread]
    rfl
  refine ⟨rfl, ?_, Scalar.cast_integer_eq_ok_iff.2 hscalar,
    (Scalar.convert_eq_ok_iff (t := .integer)).2 hscalar⟩
  simp only [Expr.Node.eval, Expr.evalAll, Expr.call, Expr.firstArgument, Expr.applyOne, hread]

/-! ## The text as an expression -/

namespace Expr

variable {before after s : List Char} {i : Int64}

/-- White space in front adds no token. -/
theorem scan_append_of_blank (hbefore : ∀ c ∈ before, isBlank c = true) : scan (before ++ s) = scan s := by
  induction before with
  | nil => rfl
  | cons c before ih =>
    obtain ⟨hfirst, hothers⟩ := List.forall_mem_cons.1 hbefore
    rw [List.cons_append, scan, if_pos hfirst, ih hothers]

theorem scan_of_blank (hafter : ∀ c ∈ after, isBlank c = true) : scan after = .ok [] := by
  have h := scan_append_of_blank (s := []) hafter
  rwa [List.append_nil, scan] at h

/-- Digits at the front are scanned as a number. -/
theorem lexeme_digits (n : ℕ) (rest : List Char) : ∃ c cs, Decimal.digitsOf n ++ rest = c :: cs ∧
    isBlank c = false ∧ lexeme c cs = numberLexeme (Decimal.digitsOf n ++ rest) := by
  cases hdigits : Decimal.digitsOf n with
  | nil => exact absurd hdigits Nat.toDigits_ne_nil
  | cons d ds =>
    have hdigit : isDigit d = true := isDigit_of_mem_digitsOf (hdigits ▸ List.mem_cons_self)
    refine ⟨d, ds ++ rest, rfl, isBlank_of_isDigit hdigit, ?_⟩
    rw [lexeme, if_pos (by simp [startsNumber, hdigit]), List.cons_append]

theorem head?_blank (hafter : ∀ c ∈ after, isBlank c = true) : ∀ c ∈ after.head?, isBlank c = true :=
  fun c hc => hafter c (List.mem_of_mem_head? hc)

/-- The digits of an integer that 64 bits hold are one token. -/
theorem scan_digits {i : Int64} (hi : 0 ≤ i.toInt) (hafter : ∀ c ∈ after, isBlank c = true) :
    scan (Decimal.digitsOf i.toInt.natAbs ++ after) = .ok [.integer i] := by
  obtain ⟨c, cs, htext, hblank, hlexeme⟩ := lexeme_digits i.toInt.natAbs after
  rw [numberLexeme_digits (fun c => isDigit_of_mem_digitsOf) (integerChars?_digitsOf hi) (head?_blank hafter)]
    at hlexeme
  rw [htext, scan_of_lexeme hblank hlexeme, scan_of_blank hafter]
  rfl

/-- Digits beyond 64 bits are refused with the number named. -/
theorem scan_digits_refused {n : ℕ} (hn : Integer.greatest < n) (hafter : ∀ c ∈ after, isBlank c = true) :
    scan (Decimal.digitsOf n ++ after) = .error (.invalidNumber (String.ofList (Decimal.digitsOf n))) := by
  obtain ⟨c, cs, htext, hblank, hlexeme⟩ := lexeme_digits n after
  have hread : Decimal.integerChars? (Decimal.digitsOf n) = none := by
    rw [integerChars?_of_splitSign (splitSign_digitsOf n), if_neg Bool.false_ne_true]
    exact Integer.ofInt?_eq_none_iff.2 (.inr hn)
  rw [numberLexeme_digits_refused (fun c => isDigit_of_mem_digitsOf) hread (head?_blank hafter)] at hlexeme
  rw [htext]
  exact scan_of_lexeme_error hblank hlexeme

/-- A minus is a token of its own, so the number behind it is scanned without its sign. -/
theorem scan_minus (s : List Char) : scan ('-' :: s) = (scan s).map (.symbol .minus :: ·) :=
  scan_of_lexeme (by decide) (by cases s <;> rfl)

/-- A sign is a token of its own. -/
theorem exists_scan_of_writes {text : String} (h : Writes text i) :
    ∃ after, (∀ c ∈ after, isBlank c = true) ∧ scan text.toList =
      if i.toInt < 0 then (scan (Decimal.digitsOf i.toInt.natAbs ++ after)).map (.symbol .minus :: ·)
      else scan (Decimal.digitsOf i.toInt.natAbs ++ after) := by
  obtain ⟨before, after, htext, hbefore, hafter⟩ := h
  refine ⟨after, hafter, ?_⟩
  rw [htext, List.append_assoc, scan_append_of_blank hbefore, toList_text_integer]
  split
  · exact scan_minus _
  · rfl

/-- A source parses to the tree of its tokens. -/
theorem parse_of_derives {source : String} {tokens : List Token} {t : Node}
    (hscan : scan source.toList = .ok tokens) (hlength : tokens.length ≤ 1024)
    (hderives : Derives 64 .or tokens t) : Expr.parse source = .ok ⟨source, t⟩ := by
  have hparse : parseNode source = .ok t := by
    rw [parseNode, hscan]
    exact parseTokens_complete hlength hderives
  rw [Expr.parse, hparse]

/-- An integer is a phrase of every kind. -/
theorem derives_integer (n : ℕ) (p : Phrase) (i : Int64) : Derives n p [.integer i] (.literal (.integer i)) :=
  (Derives.stands (.integer i)).loosen p.rung_le

/-- The literal behind the sign is an integer unless the integer is the least. -/
theorem expression_of_writes {text : String} (h : Writes text i) (hi : i.toInt ≠ Integer.least) :
    ∃ expr, Expr.parse text = .ok expr ∧ ∀ x, expr.eval x = .ok (.integer i) := by
  obtain ⟨after, hafter, hscan⟩ := exists_scan_of_writes h
  rcases Int.lt_or_le i.toInt 0 with hneg | hnonneg
  · -- the magnitude is that of an integer, whose negative is the one written
    obtain ⟨j, hj⟩ : ∃ j : Int64, j.toInt = -i.toInt := by
      have hleast := Integer.least_le i
      simp only [Integer.least] at hi hleast
      exact ⟨_, Integer.toInt_of_ofInt? (Integer.ofInt?_of_mem (n := -i.toInt)
        (by simp only [Integer.least]; omega) (by simp only [Integer.greatest]; omega))⟩
    have hmagnitude : i.toInt.natAbs = j.toInt.natAbs := by omega
    rw [if_pos hneg, hmagnitude, scan_digits (by omega) hafter] at hscan
    have hderives : Derives 64 .or [.symbol .minus, .integer j] (.neg (.literal (.integer j))) :=
      (Derives.negative (derives_integer 63 .unary j)).loosen (by decide)
    refine ⟨_, parse_of_derives hscan (by simp) hderives, fun x => ?_⟩
    change checked (-j.toInt) = _
    rw [hj, Int.neg_neg, checked_toInt]
  · rw [if_neg (Int.not_lt.2 hnonneg), scan_digits hnonneg hafter] at hscan
    exact ⟨_, parse_of_derives hscan (by simp) (derives_integer 64 .or i), fun x => rfl⟩

/-- The text of the least integer is refused, since its digits alone are beyond 64 bits. -/
theorem parse_of_writes_least {text : String} (h : Writes text i) (hi : i.toInt = Integer.least) :
    Expr.parse text = .error (.invalidNumber "9223372036854775808") := by
  obtain ⟨after, hafter, hscan⟩ := exists_scan_of_writes h
  rw [hi, if_pos (by decide), scan_digits_refused (by decide) hafter] at hscan
  have hdigits : String.ofList (Decimal.digitsOf Integer.least.natAbs) = "9223372036854775808" := by decide
  rw [hdigits] at hscan
  rw [Expr.parse, parseNode, hscan]
  rfl

end Expr

/-- **Integers as text.** The text of an integer, with white space around it or not, is read as the integer
by the conversions. As an expression it is read as the integer too, unless the integer is the least one:
then its magnitude is refused as a literal. -/
theorem readBack_iff {text : String} {i : Int64} (h : Writes text i) :
    ConvertsBack text i ∧ (ReadBack text i ↔ i.toInt ≠ Integer.least) ∧
      (i.toInt = Integer.least → Expr.parse text = .error (.invalidNumber "9223372036854775808")) := by
  refine ⟨convertsBack h, ⟨fun hread hi => ?_, fun hi => ?_⟩, Expr.parse_of_writes_least h⟩
  · obtain ⟨expr, hparse, -⟩ := hread.expression
    cases hparse.symm.trans (Expr.parse_of_writes_least h hi)
  · exact ⟨convertsBack h, Expr.expression_of_writes h hi⟩

/-- White space of several kinds around a negative integer. -/
theorem readBack_spaced : Writes "\n -7\t" (-7) ∧ ReadBack "\n -7\t" (-7) := by
  have hbefore : ∀ c ∈ ['\n', ' '], isBlank c = true := by
    rw [List.forall_mem_cons, List.forall_mem_singleton]
    decide
  have hafter : ∀ c ∈ ['\t'], isBlank c = true := by
    rw [List.forall_mem_singleton]
    decide
  have h : Writes "\n -7\t" (-7) := ⟨['\n', ' '], ['\t'], by decide, hbefore, hafter⟩
  exact ⟨h, (readBack_iff h).2.1.2 (by decide)⟩

/-- The text of the least integer is no expression. -/
theorem not_readBack_least : Writes "-9223372036854775808" Int64.minValue ∧
    ¬ ReadBack "-9223372036854775808" Int64.minValue := by
  have hnone : ∀ c ∈ ([] : List Char), isBlank c = true := fun c hc => absurd hc List.not_mem_nil
  have h : Writes "-9223372036854775808" Int64.minValue := ⟨[], [], by decide, hnone, hnone⟩
  exact ⟨h, fun hread => (readBack_iff h).2.1.1 hread (by decide)⟩

end LayeredConfig
