import LayeredConfig.Proofs.Value.Integral

/-!
# Casting and validating

The module `builtins` of casts has a function for each of the descriptors of scalars. What the descriptor
converts, the function makes the same of (`builtin_agrees_with_descriptor`). For numbers it is also the
other way round; the functions for truth values and texts take more than their descriptors do.
-/

namespace LayeredConfig

/-- The kinds of scalars that there is both a descriptor and a function for. -/
inductive Scalar where
  | integer
  | float
  | boolean
  | string
deriving DecidableEq, Repr

namespace Scalar

/-- The descriptor of a kind. -/
def descriptor : Scalar → Descriptor
  | integer => .integer
  | float => .float
  | boolean => .boolean
  | string => .string

/-- The name of the function of a kind. -/
def member : Scalar → String
  | integer => "int"
  | float => "float"
  | boolean => "bool"
  | string => "str"

/-- What the function of a kind makes of a value. -/
def cast (t : Scalar) (v : Value) : Except CastError Value :=
  FunctionTable.builtins.call "builtins" t.member v

/-- The function gives what the descriptor gives, and for numbers nothing else. -/
structure Agrees (t : Scalar) (v : Value) : Prop where
  cast_of_convert : ∀ w, t.descriptor.convert v = .ok w → t.cast v = .ok w
  succeeds_iff : t = .integer ∨ t = .float →
    ((∃ w, t.cast v = .ok w) ↔ ∃ w, t.descriptor.convert v = .ok w)

/-! ## One scalar at a time -/

/-- A scalar descriptor converts what its own rule takes, since it goes into nothing. -/
theorem convert_eq_ok_iff {t : Scalar} {v w : Value} :
    t.descriptor.convert v = .ok w ↔ t.descriptor.scalar? v = some w := by
  have hscalar : t.descriptor.convert v = t.descriptor.convertScalar v := by
    cases t <;> rfl
  rw [hscalar, Descriptor.convertScalar]
  cases t.descriptor.scalar? v <;> simp

/-- The integer cast succeeds where the descriptor's rule for integers does, with the same result. -/
theorem cast_integer_eq_ok_iff {v w : Value} :
    integer.cast v = .ok w ↔ Descriptor.integer.scalar? v = some w := by
  change Function.toInteger v = .ok w ↔ _
  cases v with
  | float x =>
    rw [Function.toInteger, Descriptor.scalar?, Convert.integerOfSmall?_eq]
    cases Convert.integerOfFloat? x <;> simp [Function.failed]
  | string s =>
    rw [Function.toInteger, Descriptor.scalar?]
    cases Decimal.integer? (Text.trim s) <;> simp [Function.failed]
  | _ => simp [Function.toInteger, Descriptor.scalar?, Function.failed]

theorem cast_float_eq_ok_iff {v w : Value} :
    float.cast v = .ok w ↔ Descriptor.float.scalar? v = some w := by
  change Function.toFloat v = .ok w ↔ _
  cases v with
  | string s =>
    rw [Function.toFloat, Descriptor.scalar?]
    cases Decimal.number? (Text.trim s) <;> simp [Function.failed]
  | _ => simp [Function.toFloat, Descriptor.scalar?, Function.failed]

/-- A word that says yes or no says the same where blank words are taken for a no. -/
theorem boolOfWord?_noOrBlankWords {word : String} {b : Bool}
    (h : Convert.boolOfWord? Convert.noWords word = some b) :
    Convert.boolOfWord? Convert.noOrBlankWords word = some b := by
  unfold Convert.boolOfWord? at h ⊢
  split at h
  · next hyes => rw [if_pos hyes, ← h]
  · next hyes =>
    split at h
    · next hno =>
      have hmem : word ∈ Convert.noOrBlankWords := by
        have hsublist : Convert.noWords ⊆ Convert.noOrBlankWords := by decide
        exact hsublist (List.contains_iff_mem.1 hno)
      rw [if_neg hyes, if_pos (List.contains_iff_mem.2 hmem), ← h]
    · cases h

/-- The function takes every value for true or false, and those of the descriptor as the descriptor does. -/
theorem cast_boolean_of_scalar? {v w : Value} (h : Descriptor.boolean.scalar? v = some w) :
    boolean.cast v = .ok w := by
  change Function.toBool v = .ok w
  cases v with
  | bool b =>
    cases h
    rfl
  | integer i =>
    rw [Descriptor.scalar?] at h
    split at h
    · next hzero =>
      cases h
      rw [hzero]
      rfl
    · split at h
      · next hone =>
        cases h
        rw [hone]
        rfl
      · cases h
  | string s =>
    rw [Descriptor.scalar?, Option.map_eq_some_iff] at h
    obtain ⟨b, hb, rfl⟩ := h
    rw [Function.toBool, boolOfWord?_noOrBlankWords hb]
  | _ => simp [Descriptor.scalar?] at h

/-- What the descriptor renders as text, the cast renders alike; the cast takes null as well. -/
theorem cast_string_of_scalar? {v w : Value} (h : Descriptor.string.scalar? v = some w) :
    string.cast v = .ok w := by
  change Function.toText v = .ok w
  cases v with
  | bool b | integer i | float x | string s =>
    cases h
    rfl
  | _ => simp [Descriptor.scalar?] at h

/-! ## All scalars -/

/-- **Casting and validating agree.** A function of casts gives what the descriptor of the same kind gives,
wherever that gives something. The functions for numbers give nothing anywhere else. -/
theorem builtin_agrees_with_descriptor (t : Scalar) (v : Value) : Agrees t v := by
  constructor
  · intro w h
    rw [convert_eq_ok_iff] at h
    cases t with
    | integer => exact cast_integer_eq_ok_iff.2 h
    | float => exact cast_float_eq_ok_iff.2 h
    | boolean => exact cast_boolean_of_scalar? h
    | string => exact cast_string_of_scalar? h
  · simp only [convert_eq_ok_iff]
    rintro (rfl | rfl)
    · exact exists_congr fun w => cast_integer_eq_ok_iff
    · exact exists_congr fun w => cast_float_eq_ok_iff

end Scalar

end LayeredConfig
