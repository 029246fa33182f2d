import LayeredConfig.Proofs.Expr.Exactness
import LayeredConfig.Proofs.Expr.Safety

/-!
# Lengths, positions, concatenation and repetition

Strings and arrays are sequences: a string is one of its characters, however many bytes they take. On
sequences `len` counts the items, `+` puts the items of one behind those of the other, `*` repeats those of a
string, and an index finds the item at its place, counted from the end if it is negative. Each of these
operations has one lemma about the items, for strings and arrays alike; the laws that connect them follow
from what lists do (`sequences_fit_together`).
-/

namespace LayeredConfig.Expr

/-- The kinds of values that are indexed by position. -/
inductive SequenceKind where
  | string
  | array

/-- The characters of a string, each a string of its own. -/
def characters (s : String) : List Value := s.toList.map fun c => .string c.toString

/-- The tree evaluates to a sequence with these items. -/
inductive EvaluatesToSequence (x : Value) (node : Node) : SequenceKind → List Value → Prop where
  | string {s : String} (h : node.eval x = .ok (.string s)) :
      EvaluatesToSequence x node .string (characters s)
  | array {items : List Value} (h : node.eval x = .ok (.array items)) :
      EvaluatesToSequence x node .array items

/-- The tree evaluates to this integer. -/
def EvaluatesToInteger (x : Value) (node : Node) (k : ℤ) : Prop :=
  ∃ i : Int64, i.toInt = k ∧ node.eval x = .ok (.integer i)

/-- The tree `len(node)`. -/
def lengthOf (node : Node) : Node := .call .len [node]

/-! ## Items of lists -/

section

variable {α : Type} {items : List α} {item : α} {index : Int64} {place : ℕ}

/-- An index finds the item at its place, whether it counts from the front or from the end. -/
theorem itemAt_eq_ok (hlength : items.length ≤ Integer.greatest) (hitem : items[place]? = some item)
    (hindex : index.toInt = place ∨ index.toInt = place - items.length) :
    itemAt items index = .ok item := by
  have hlt : place < items.length := (List.getElem?_eq_some_iff.1 hitem).1
  have hposition : position index items.length = .ok place := by
    rw [position_eq, if_neg (Int.not_lt.2 hlength)]
    rcases hindex with hfront | hend
    · rw [if_pos (by omega), hfront, Int.toNat_natCast]
    · have hplace : (index.toInt + items.length).toNat = place := by omega
      rw [if_neg (by omega), if_pos (by omega), hplace]
  simp only [itemAt, hposition, hitem]

/-- Beyond both ends an index finds nothing. -/
theorem itemAt_eq_outOfRange (hlength : items.length ≤ Integer.greatest)
    (hindex : index.toInt < -items.length ∨ items.length ≤ index.toInt) :
    itemAt items index = .error (.indexOutOfRange index) := by
  have hposition : position index items.length = .error (.indexOutOfRange index) := by
    rw [position_eq, if_neg (Int.not_lt.2 hlength), if_neg (by omega), if_neg (by omega)]
  simp only [itemAt, hposition]

/-- Taking an item of mapped items maps the item that is taken. -/
theorem itemAt_map {β : Type} (f : α → β) : itemAt (items.map f) index = (itemAt items index).map f := by
  simp only [itemAt, List.length_map]
  cases position index items.length with
  | error e => rfl
  | ok place => cases h : items[place]? <;> simp [h, Except.map]

theorem length_flatten_replicate (n : ℕ) (items : List α) :
    (List.replicate n items).flatten.length = n * items.length := by
  rw [List.length_flatten, List.map_replicate, List.sum_replicate_nat]

/-- A repetition starts over after each round. -/
theorem getElem?_flatten_replicate {n : ℕ} (h : place < n * items.length) :
    (List.replicate n items).flatten[place]? = items[place % items.length]? := by
  induction n generalizing place with
  | zero => simp at h
  | succ n ih =>
    rw [List.replicate_succ, List.flatten_cons]
    rw [Nat.succ_mul] at h
    rcases Nat.lt_or_ge place items.length with hlt | hge
    · rw [List.getElem?_append_left hlt, Nat.mod_eq_of_lt hlt]
    · rw [List.getElem?_append_right hge, ih (by omega), Nat.mod_eq_sub_mod hge]

/-- A place in a repetition, counted from either end, holds the item of that place modulo the length. -/
theorem exists_item_of_repetition {n : ℕ} {k : ℤ} (hleast : -((n * items.length : ℕ) : ℤ) ≤ k)
    (hgreatest : k < (n * items.length : ℕ)) :
    ∃ (place : ℕ) (item : α), (List.replicate n items).flatten[place]? = some item ∧
      (k = place ∨ k = place - (n * items.length : ℕ)) ∧
      items[(k % items.length).toNat]? = some item := by
  obtain ⟨place, hk, hplace⟩ : ∃ place : ℕ, (k = place ∨ k = place - (n * items.length : ℕ)) ∧
      place < n * items.length := by
    rcases Int.lt_or_le k 0 with hneg | hnonneg
    · exact ⟨(k + (n * items.length : ℕ)).toNat, .inr (by omega), by omega⟩
    · exact ⟨k.toNat, .inl (by omega), by omega⟩
  have hround : (k % items.length).toNat = place % items.length := by
    rw [← Int.toNat_natCast (place % items.length), Int.natCast_emod]
    rcases hk with rfl | rfl
    · rfl
    · rw [Nat.cast_mul, Int.sub_mul_emod_self_right]
  have hlt : place % items.length < items.length :=
    Nat.mod_lt _ (Nat.pos_of_mul_pos_left (Nat.zero_lt_of_lt hplace))
  refine ⟨place, items[place % items.length], ?_, hk, ?_⟩
  · rw [getElem?_flatten_replicate hplace, List.getElem?_eq_getElem hlt]
  · rw [hround, List.getElem?_eq_getElem hlt]

end

/-! ## Operations on integers -/

section

variable {x : Value} {m n : Node} {k l : ℤ}

/-- A checked integer in the range of 64 bits is what the tree evaluates to. -/
theorem EvaluatesToInteger.of_checked (h : m.eval x = checked k) (hleast : Integer.least ≤ k)
    (hgreatest : k ≤ Integer.greatest) : EvaluatesToInteger x m k := by
  rw [checked, Integer.ofInt?_of_mem hleast hgreatest] at h
  exact ⟨_, Integer.toInt_of_ofInt? (Integer.ofInt?_of_mem hleast hgreatest), h⟩

/-- Integers that trees evaluate to are in the range of 64 bits. -/
theorem EvaluatesToInteger.mem_range (h : EvaluatesToInteger x m k) :
    Integer.least ≤ k ∧ k ≤ Integer.greatest := by
  obtain ⟨i, rfl, -⟩ := h
  exact ⟨Integer.least_le i, Integer.le_greatest i⟩

/-- Trees of integers add up, as far as 64 bits reach. -/
theorem EvaluatesToInteger.add (hm : EvaluatesToInteger x m k) (hn : EvaluatesToInteger x n l)
    (hleast : Integer.least ≤ k + l) (hgreatest : k + l ≤ Integer.greatest) :
    EvaluatesToInteger x (.binary .add m n) (k + l) := by
  obtain ⟨i, rfl, hm⟩ := hm
  obtain ⟨j, rfl, hn⟩ := hn
  refine .of_checked ?_ hleast hgreatest
  simp only [Node.eval, hm, hn]
  rfl

theorem EvaluatesToInteger.sub (hm : EvaluatesToInteger x m k) (hn : EvaluatesToInteger x n l)
    (hleast : Integer.least ≤ k - l) (hgreatest : k - l ≤ Integer.greatest) :
    EvaluatesToInteger x (.binary .sub m n) (k - l) := by
  obtain ⟨i, rfl, hm⟩ := hm
  obtain ⟨j, rfl, hn⟩ := hn
  refine .of_checked ?_ hleast hgreatest
  simp only [Node.eval, hm, hn]
  rfl

theorem EvaluatesToInteger.neg (hm : EvaluatesToInteger x m k) (hleast : Integer.least ≤ -k)
    (hgreatest : -k ≤ Integer.greatest) : EvaluatesToInteger x (.neg m) (-k) := by
  obtain ⟨i, rfl, hm⟩ := hm
  refine .of_checked ?_ hleast hgreatest
  simp only [Node.eval, hm]
  rfl

/-- By a positive number every integer can be divided. -/
theorem EvaluatesToInteger.mod (hm : EvaluatesToInteger x m k) (hn : EvaluatesToInteger x n l)
    (hl : 0 < l) : EvaluatesToInteger x (.binary .mod m n) (k % l) := by
  have hrange := hn.mem_range
  have hnonneg := Int.emod_nonneg k (Int.ne_of_gt hl)
  have hlt := Int.emod_lt_of_pos k hl
  obtain ⟨i, rfl, hm⟩ := hm
  obtain ⟨j, rfl, hn⟩ := hn
  have hquotient : Integer.ofInt? (i.toInt.tdiv j.toInt) ≠ none := by
    rw [Ne, ofInt?_tdiv_eq_none_iff (by omega)]
    omega
  obtain ⟨q, hq⟩ := Option.ne_none_iff_exists'.1 hquotient
  have hmodulo := floorModulo_eq i j
  rw [if_neg (Int.ne_of_gt hl), hq, Int.fmod_eq_emod_of_nonneg _ (Int.le_of_lt hl)] at hmodulo
  refine .of_checked ?_ (by simp only [Integer.least]; omega) (by omega)
  simp only [Node.eval, hm, hn]
  exact hmodulo

end

/-! ## Operations on sequences -/

section

variable {x : Value} {a b i : Node} {kind : SequenceKind} {as bs : List Value} {k : ℤ}

theorem length_characters (s : String) : (characters s).length = s.length := by
  rw [characters, List.length_map, String.length_toList]

/-- The characters of a concatenation are those of its parts. -/
theorem characters_append (s t : String) : characters (s ++ t) = characters s ++ characters t := by
  rw [characters, String.toList_append, List.map_append, characters, characters]

/-- The characters of a repeated string are its characters, repeated. -/
theorem characters_join_replicate (count : ℕ) (s : String) :
    characters (String.join (List.replicate count s)) = (List.replicate count (characters s)).flatten := by
  rw [characters, String.toList_join, List.flatMap_replicate, List.map_flatten, List.map_replicate, characters]

/-- `len` gives the number of items, if 64 bits hold it. -/
theorem EvaluatesToSequence.length (h : EvaluatesToSequence x a kind as)
    (hlength : as.length ≤ Integer.greatest) : EvaluatesToInteger x (lengthOf a) as.length := by
  refine .of_checked ?_ (by simp only [Integer.least]; omega) hlength
  cases h with
  | @string s h =>
    rw [length_characters]
    simp only [lengthOf, Node.eval, evalAll, h]
    rfl
  | array h =>
    simp only [lengthOf, Node.eval, evalAll, h]
    rfl

/-- Indexing a sequence takes an item of its list. -/
theorem EvaluatesToSequence.eval_index {index : Int64} (h : EvaluatesToSequence x a kind as)
    (hi : i.eval x = .ok (.integer index)) : (Node.index a i).eval x = itemAt as index := by
  cases h with
  | string h => simp only [Node.eval, h, hi, indexed, characters, itemAt_map]
  | array h => simp only [Node.eval, h, hi, indexed]

/-- A place is found from the front and from the end. -/
theorem EvaluatesToSequence.index_eq_ok {item : Value} {place : ℕ} (h : EvaluatesToSequence x a kind as)
    (hlength : as.length ≤ Integer.greatest) (hi : EvaluatesToInteger x i k)
    (hitem : as[place]? = some item) (hk : k = place ∨ k = place - as.length) :
    (Node.index a i).eval x = .ok item := by
  obtain ⟨index, rfl, hi⟩ := hi
  rw [h.eval_index hi, itemAt_eq_ok hlength hitem hk]

theorem EvaluatesToSequence.add (ha : EvaluatesToSequence x a kind as)
    (hb : EvaluatesToSequence x b kind bs) :
    EvaluatesToSequence x (.binary .add a b) kind (as ++ bs) := by
  cases ha with
  | @string s ha =>
    cases hb with
    | @string t hb =>
      rw [← characters_append]
      refine .string ?_
      simp only [Node.eval, ha, hb]
      rfl
  | array ha =>
    cases hb with
    | array hb =>
      refine .array ?_
      simp only [Node.eval, ha, hb]
      rfl

/-- A character takes a byte or more. -/
theorem length_le_utf8ByteSize (s : String) : s.length ≤ s.utf8ByteSize := by
  induction s using String.push_induction with
  | empty => exact Nat.zero_le _
  | push s c ih =>
    have hpos := c.utf8Size_pos
    rw [String.length_push, String.utf8ByteSize_push]
    omega

/-- The string without characters is repeated like any other. -/
theorem repeated_eq (s : String) (count : Int64) :
    repeated s count = if maxRepeatedBytes < s.utf8ByteSize * count.toInt.toNat then .error .repetitionTooLarge
      else .ok (.string (String.join (List.replicate count.toInt.toNat s))) := by
  by_cases hempty : s.isEmpty
  · have hjoined : (String.join (List.replicate count.toInt.toNat s)).utf8ByteSize = 0 := by
      rw [utf8ByteSize_join_replicate, String.isEmpty_iff.1 hempty, String.utf8ByteSize_empty, Nat.zero_mul]
    simp only [repeated, hempty, if_true, String.utf8ByteSize_eq_zero_iff.1 hjoined]
  · simp only [repeated, hempty, if_false, Bool.false_eq_true]

/-- If a string can be repeated, the repetition has its characters again and again. -/
theorem string_mul {s n : Node} {text : String} {product : Value} (hs : s.eval x = .ok (.string text))
    (hn : EvaluatesToInteger x n k) (hproduct : (Node.binary .mul s n).eval x = .ok product) :
    EvaluatesToSequence x (.binary .mul s n) .string
        (List.replicate k.toNat (characters text)).flatten ∧
      k.toNat * text.length ≤ maxRepeatedBytes := by
  obtain ⟨count, rfl, hn⟩ := hn
  have heval : (Node.binary .mul s n).eval x = repeated text count := by
    simp only [Node.eval, hs, hn]
    rfl
  rw [heval, repeated_eq] at hproduct
  split at hproduct
  · cases hproduct
  · next hsize =>
    rw [repeated_eq, if_neg hsize] at heval
    rw [← characters_join_replicate]
    refine ⟨.string heval, ?_⟩
    calc count.toInt.toNat * text.length
      _ ≤ count.toInt.toNat * text.utf8ByteSize := Nat.mul_le_mul_left _ (length_le_utf8ByteSize text)
      _ = text.utf8ByteSize * count.toInt.toNat := Nat.mul_comm _ _
      _ ≤ maxRepeatedBytes := Nat.le_of_not_lt hsize

end

/-! ## The laws -/

/-- The laws of two sequences, their concatenation, its length and its items. -/
structure JoinLaws (x : Value) (a b : Node) (as bs : List Value) : Prop where
  length : EvaluatesToInteger x (lengthOf (.binary .add a b)) (as.length + bs.length) ∧
    EvaluatesToInteger x (.binary .add (lengthOf a) (lengthOf b)) (as.length + bs.length)
  left : ∀ i k, EvaluatesToInteger x i k → 0 ≤ k → k < as.length →
    ∃ v, as[k.toNat]? = some v ∧ (Node.index (.binary .add a b) i).eval x = .ok v ∧
      (Node.index a i).eval x = .ok v
  right : ∀ i k, EvaluatesToInteger x i k → as.length ≤ k → k < as.length + bs.length →
    ∃ v, bs[(k - as.length).toNat]? = some v ∧ (Node.index (.binary .add a b) i).eval x = .ok v ∧
      (Node.index b (.binary .sub i (lengthOf a))).eval x = .ok v
  fromEnd : ∀ i k, EvaluatesToInteger x i k → 1 ≤ k → k ≤ as.length →
    ∃ v, as[(as.length - k).toNat]? = some v ∧ (Node.index a (.neg i)).eval x = .ok v ∧
      (Node.index a (.binary .sub (lengthOf a) i)).eval x = .ok v
  outside : ∀ i k, EvaluatesToInteger x i k → k < -as.length ∨ as.length ≤ k →
    ∃ index : Int64, index.toInt = k ∧ (Node.index a i).eval x = .error (.indexOutOfRange index)

/-- The laws of a string with the characters `cs` that is repeated `k` times. -/
structure RepeatLaws (x : Value) (s n : Node) (cs : List Value) (k : ℤ) : Prop where
  commutes : (Node.binary .mul s n).eval x = (Node.binary .mul n s).eval x
  length : EvaluatesToInteger x (lengthOf (.binary .mul s n)) (cs.length * max k 0)
  item : ∀ i j, EvaluatesToInteger x i j → -(cs.length * max k 0) ≤ j → j < cs.length * max k 0 →
    ∃ v, cs[(j % cs.length).toNat]? = some v ∧ (Node.index (.binary .mul s n) i).eval x = .ok v ∧
      (Node.index s (.binary .mod i (lengthOf s))).eval x = .ok v

section

variable {x : Value} {a b s n : Node} {kind : SequenceKind} {as bs : List Value} {k : ℤ}

/-- A concatenation has the length of its parts and their items, in order. -/
theorem joinLaws (ha : EvaluatesToSequence x a kind as) (hb : EvaluatesToSequence x b kind bs)
    (htotal : as.length + bs.length ≤ Integer.greatest) : JoinLaws x a b as bs where
  length := by
    have hjoined := (ha.add hb).length (by rwa [List.length_append, Nat.cast_add])
    rw [List.length_append, Nat.cast_add] at hjoined
    have hsum := (ha.length (by omega)).add (hb.length (by omega)) (by simp only [Integer.least]; omega) htotal
    exact ⟨hjoined, hsum⟩
  left i k hi hnonneg hlt := by
    obtain ⟨place, rfl⟩ := Int.eq_ofNat_of_zero_le hnonneg
    have hitem : as[place]? = some as[place] := List.getElem?_eq_getElem (by omega)
    have hjoined : (as ++ bs)[place]? = some as[place] := by
      rw [List.getElem?_append_left (by omega), hitem]
    refine ⟨_, hitem, (ha.add hb).index_eq_ok ?_ hi hjoined (.inl rfl),
      ha.index_eq_ok (by omega) hi hitem (.inl rfl)⟩
    rwa [List.length_append, Nat.cast_add]
  right i k hi hge hlt := by
    obtain ⟨place, hplace⟩ := Int.eq_ofNat_of_zero_le (Int.sub_nonneg_of_le hge)
    have hitem : bs[place]? = some bs[place] := List.getElem?_eq_getElem (by omega)
    have hjoined : (as ++ bs)[as.length + place]? = some bs[place] := by
      rw [List.getElem?_append_right (by omega), Nat.add_sub_cancel_left, hitem]
    -- 64 bits hold the offset into the second part
    have hoffset := hi.sub (ha.length (by omega)) (by simp only [Integer.least]; omega) (by omega)
    refine ⟨_, by rwa [hplace], (ha.add hb).index_eq_ok ?_ hi hjoined (.inl (by omega)),
      hb.index_eq_ok (by omega) hoffset hitem (.inl hplace)⟩
    rwa [List.length_append, Nat.cast_add]
  fromEnd i k hi hpos hle := by
    obtain ⟨place, hplace⟩ := Int.eq_ofNat_of_zero_le (Int.sub_nonneg_of_le hle)
    have hitem : as[place]? = some as[place] := List.getElem?_eq_getElem (by omega)
    have hnegative := hi.neg (by simp only [Integer.least, Integer.greatest] at *; omega)
      (by simp only [Integer.greatest]; omega)
    have hoffset := (ha.length (by omega)).sub hi (by simp only [Integer.least]; omega) (by omega)
    exact ⟨_, by rwa [hplace], ha.index_eq_ok (by omega) hnegative hitem (.inr (by omega)),
      ha.index_eq_ok (by omega) hoffset hitem (.inl hplace)⟩
  outside i k hi hk := by
    obtain ⟨index, rfl, hi⟩ := hi
    exact ⟨index, rfl, by rw [ha.eval_index hi, itemAt_eq_outOfRange (by omega) hk]⟩

/-- A repeated string has the length and the items that its copies have, and the order of the factors does
not matter. -/
theorem repeatLaws {text : String} {product : Value} (hs : s.eval x = .ok (.string text))
    (hn : EvaluatesToInteger x n k) (hproduct : (Node.binary .mul s n).eval x = .ok product) :
    RepeatLaws x s n (characters text) k := by
  obtain ⟨hrepeated, hsize⟩ := string_mul hs hn hproduct
  have htotal : ((k.toNat * (characters text).length : ℕ) : ℤ) = (characters text).length * max k 0 := by
    rw [Nat.cast_mul, Int.mul_comm, Int.toNat_eq_max]
  rw [← length_characters] at hsize
  have hsmall : (List.replicate k.toNat (characters text)).flatten.length ≤ Integer.greatest := by
    rw [length_flatten_replicate]
    simp only [maxRepeatedBytes] at hsize
    simp only [Integer.greatest]
    omega
  constructor
  case commutes =>
    obtain ⟨count, rfl, hn⟩ := hn
    simp only [Node.eval, hs, hn]
    rfl
  case length =>
    have h := hrepeated.length hsmall
    rwa [length_flatten_replicate, htotal] at h
  case item =>
    intro i j hi hleast hgreatest
    rw [← htotal] at hleast hgreatest
    obtain ⟨place, item, hplace, hj, hitem⟩ := exists_item_of_repetition hleast hgreatest
    have hlt := (List.getElem?_eq_some_iff.1 hplace).1
    -- there is an item, so the string is not empty and is no longer than its copies
    have hpos : 0 < (characters text).length := Nat.zero_lt_of_lt (List.getElem?_eq_some_iff.1 hitem).1
    have hrange : (characters text).length ≤ Integer.greatest := by
      rw [length_flatten_replicate] at hlt hsmall
      have hle := Nat.le_mul_of_pos_left (characters text).length
        (Nat.pos_of_mul_pos_right (Nat.zero_lt_of_lt hlt))
      omega
    rw [← length_flatten_replicate] at hj
    have hround := hi.mod ((EvaluatesToSequence.string hs).length hrange) (Int.natCast_pos.2 hpos)
    have hnonneg := Int.emod_nonneg j (Int.ne_of_gt (Int.natCast_pos.2 hpos))
    exact ⟨item, hitem, hrepeated.index_eq_ok hsmall hi hplace hj,
      (EvaluatesToSequence.string hs).index_eq_ok hrange hround hitem
        (.inl (Int.toNat_of_nonneg hnonneg).symm)⟩

/-- **Sequences fit together.** Lengths add up, the items of a concatenation are those of its parts in
their order, negative positions count from the end, and there is nothing beyond the ends. A string can be
repeated from either side, as often as the count says, and each round has its items again. -/
theorem sequences_fit_together (ha : EvaluatesToSequence x a kind as) (hb : EvaluatesToSequence x b kind bs)
    (hlength : as.length + bs.length < 2 ^ 63) :
    JoinLaws x a b as bs ∧
      ∀ s n text k product, s.eval x = .ok (.string text) → EvaluatesToInteger x n k →
        (Node.binary .mul s n).eval x = .ok product → RepeatLaws x s n (characters text) k :=
  ⟨joinLaws ha hb (by simp only [Integer.greatest]; omega), fun _ _ _ _ _ => repeatLaws⟩

/-- Characters of several bytes, joined and repeated. -/
theorem sequences_fit_together_multibyte :
    (EvaluatesToSequence (.string "é日") .var .string (characters "é日") ∧
      EvaluatesToSequence (.string "é日") (.literal (.string "ß")) .string (characters "ß") ∧
      (characters "é日").length + (characters "ß").length < 2 ^ 63) ∧
    (JoinLaws (.string "é日") .var (.literal (.string "ß")) (characters "é日") (characters "ß") ∧
      RepeatLaws (.string "é日") .var (.literal (.integer 2)) (characters "é日") 2) ∧
    (Node.index (.binary .mul .var (.literal (.integer 2))) (.literal (.integer (-3)))).eval
      (.string "é日") = .ok (.string "日") := by
  have ha : EvaluatesToSequence (.string "é日") .var .string (characters "é日") := .string rfl
  have hb : EvaluatesToSequence (.string "é日") (.literal (.string "ß")) .string (characters "ß") :=
    .string rfl
  have hlength : (characters "é日").length + (characters "ß").length < 2 ^ 63 := by decide
  have heval : (Node.binary .mul .var (.literal (.integer 2))).eval (.string "é日") =
      .ok (.string "é日é日") := by with_unfolding_all rfl
  obtain ⟨hjoin, hrepeat⟩ := sequences_fit_together ha hb hlength
  exact ⟨⟨ha, hb, hlength⟩, ⟨hjoin, hrepeat _ _ _ _ _ rfl ⟨2, rfl, rfl⟩ heval⟩,
    by with_unfolding_all rfl⟩

end

end LayeredConfig.Expr
