import LayeredConfig.Proofs.Expr.Comparison
import LayeredConfig.Proofs.Value.Alike

/-!
# Equality inside of sequences and maps

Two numbers are equal by value, of whatever kinds they are, and any other two values if they are alike. In
what is alike the numbers are of the same kinds, so that equality does not look through containers the way
it looks at numbers (`not_equal_inside`): `1 == 1.0` holds and `[1] == [1.0]` does not. But for numbers of
different kinds the two agree, item by item and key by key (`equal_throughout`).
-/

namespace LayeredConfig.Expr

open Value (Alike)

/-- Two numbers of different kinds. -/
structure MixedNumbers (a b : Value) : Prop where
  left : (Number.ofValue? a).isSome
  right : (Number.ofValue? b).isSome
  kind : a.kind ≠ b.kind

/-- The values are equal where they are compared, and not as numbers of different kinds. -/
structure EqualInKind (a b : Value) : Prop where
  equal : Answers .eq a b true
  unmixed : ¬ MixedNumbers a b

section

variable {a b : Value}

/-- `==` answers as values are equal. -/
theorem answers_eq_true_iff : Answers .eq a b true ↔ equal a b = true := by
  rw [answers_iff, holds, Except.ok.injEq]

/-- Numbers of one kind are equal if they are alike, and so are all other values. -/
theorem equal_eq_same (h : ¬ MixedNumbers a b) : equal a b = a.same b := by
  cases a with
  | integer i =>
    cases b with
    | bool _ | float _ => exact absurd ⟨rfl, rfl, by simp [Value.kind]⟩ h
    | _ => rfl
  | float x =>
    cases b with
    | bool _ | integer _ => exact absurd ⟨rfl, rfl, by simp [Value.kind]⟩ h
    | _ => rfl
  | bool p =>
    cases b with
    | integer _ | float _ => exact absurd ⟨rfl, rfl, by simp [Value.kind]⟩ h
    | bool q => cases p <;> cases q <;> rfl
    | _ => rfl
  | _ => cases b <;> rfl

/-- Values are equal in kind where they are alike. -/
theorem equalInKind_iff : EqualInKind a b ↔ a.Alike b := by
  constructor
  · rintro ⟨hequal, hmixed⟩
    rw [answers_eq_true_iff, equal_eq_same hmixed] at hequal
    exact hequal
  · intro h
    have hmixed : ¬ MixedNumbers a b := fun hmixed => hmixed.kind h.kind_eq
    refine ⟨?_, hmixed⟩
    rw [answers_eq_true_iff, equal_eq_same hmixed]
    exact h

/-- A container is equal to what it is alike. -/
theorem answers_eq_iff_alike (h : a.isContainer = true) : Answers .eq a b true ↔ a.Alike b := by
  have hmixed : ¬ MixedNumbers a b := by
    rintro ⟨hleft, -, -⟩
    cases a with
    | array _ | map _ => exact absurd hleft Bool.false_ne_true
    | _ => cases h
  rw [answers_eq_true_iff, equal_eq_same hmixed]
  rfl

/-- Two parts at one location of two containers: of one kind, and equal if they are scalars. -/
structure EqualAt (a b : Value) : Prop where
  kind : a.kind = b.kind
  scalar : a.isContainer = false → Answers .eq a b true

/-- A value matches another where the two are equal at every place. -/
theorem matches_iff : a.Matches b ↔ EqualAt a b := by
  have hmixed (hkind : a.kind = b.kind) : ¬ MixedNumbers a b := fun h => h.kind hkind
  constructor
  · exact fun h => ⟨h.kind, fun hscalar => (equalInKind_iff.2 (h.scalar hscalar)).equal⟩
  · exact fun h => ⟨h.kind, fun hscalar => equalInKind_iff.1 ⟨h.scalar hscalar, hmixed h.kind⟩⟩

/-- What it means that two sequences, two maps, or two containers are equal. -/
structure EqualThroughout (a b : Value) : Prop where
  items : ∀ as bs, a = .array as → b = .array bs → as.length = bs.length →
    (Answers .eq a b true ↔ ∀ (i : Nat) u v, as[i]? = some u → bs[i]? = some v → EqualInKind u v)
  entries : ∀ es fs : Entries Value, a = .map es → b = .map fs → (∀ key, key ∈ es.keys ↔ key ∈ fs.keys) →
    (Answers .eq a b true ↔
      ∀ key u v, Entries.get? key es = some u → Entries.get? key fs = some v → EqualInKind u v)
  within : a.isContainer = true → (Answers .eq a b true ↔
    ∀ location, Option.Rel EqualAt (a.within? location) (b.within? location))

/-- **Equality throughout.** Sequences of one length are equal if and only if their items are, one by one,
and none of these are numbers of different kinds; and maps with the same keys, key by key. So containers are
equal if and only if they have parts of one kind at the same locations, at any depth, and equal scalars. -/
theorem equal_throughout (ha : a.Ordered) (hb : b.Ordered) : EqualThroughout a b where
  items := by
    rintro as bs rfl rfl hlength
    rw [answers_eq_iff_alike rfl, Value.alike_array_iff, forall₂_iff_getElem?]
    refine forall_congr' fun i => ?_
    have hsome : as[i]?.isSome = bs[i]?.isSome := Bool.eq_iff_iff.2 (by simp [hlength])
    simp only [rel_iff, hsome, true_and, equalInKind_iff]
  entries := by
    rintro es fs rfl rfl hkeys
    rw [answers_eq_iff_alike rfl, Value.alike_map_iff, Entries.forall₂_iff ha.1 hb.1,
      and_iff_right ((Entries.keys_eq_iff ha.1 hb.1).2 hkeys)]
    simp only [equalInKind_iff]
  within hcontainer := by
    rw [answers_eq_iff_alike hcontainer, Value.alike_iff_within ha hb]
    simp only [rel_iff, matches_iff]

/-- The float `1` is equal to the integer, but inside of a map inside of a sequence the two are apart. -/
theorem equal_throughout_one :
    ((Value.array [.map [("a", .integer 1)]]).Ordered ∧
      (Value.array [.map [("a", .float (Float.ofBits 0x3ff0000000000000))]]).Ordered) ∧
    EqualThroughout (.array [.map [("a", .integer 1)]])
      (.array [.map [("a", .float (Float.ofBits 0x3ff0000000000000))]]) := by
  have hordered (v : Value) (hv : v.Ordered) : (Value.array [.map [("a", v)]]).Ordered :=
    ⟨⟨List.pairwise_singleton _ _, hv, trivial⟩, trivial⟩
  have hinteger := hordered (.integer 1) trivial
  have hfloat := hordered (.float (Float.ofBits 0x3ff0000000000000)) trivial
  exact ⟨⟨hinteger, hfloat⟩, equal_throughout hinteger hfloat⟩

/-- An integer and a float that are equal, and the sequences of them that are not. -/
theorem not_equal_inside : ∃ a b, Answers .eq a b true ∧ ¬ Answers .eq (.array [a]) (.array [b]) true := by
  have hinteger : StandsFor (.integer 1) (.integer 1) := ⟨rfl, Binary64.isNaN_ofInt _⟩
  have hfloat : StandsFor (.float (Float.ofBits 0x3ff0000000000000))
      (.float (Float.ofBits 0x3ff0000000000000)) := ⟨rfl, by decide⟩
  refine ⟨_, _, (answers_eq_iff hinteger hfloat).2 (by decide), ?_⟩
  rw [answers_eq_iff_alike rfl]
  exact nofun

end

end LayeredConfig.Expr
