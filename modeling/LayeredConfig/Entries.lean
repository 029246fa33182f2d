/-!
# Entries in key order

Maps with text keys, kept as lists of entries whose keys increase. Two maps with the same entries
are then the same list, and walking the list visits the keys in order. `get?` is the view through
which the operations are described: `get?_insert` holds of any list, `get?_erase` of lists in key
order. `Sorted.insert` and `Sorted.erase` say that the operations keep that order.
-/

namespace LayeredConfig

/-- Entries of a map. -/
abbrev Entries (α : Type) := List (String × α)

namespace Entries

variable {α : Type}

/-- The keys increase, so no key occurs twice. -/
def Sorted (es : Entries α) : Prop := es.Pairwise (fun a b => a.1 < b.1)

instance {es : Entries α} : Decidable es.Sorted :=
  inferInstanceAs (Decidable (es.Pairwise fun a b => a.1 < b.1))

/-- The value of a key. -/
def get? (key : String) : Entries α → Option α
  | [] => none
  | (k, v) :: es => if key = k then some v else get? key es

/-- Sets the value of a key, at its place in the order. -/
def insert (key : String) (value : α) : Entries α → Entries α
  | [] => [(key, value)]
  | (k, v) :: es =>
    if key = k then (key, value) :: es
    else if key < k then (key, value) :: (k, v) :: es
    else (k, v) :: insert key value es

/-- Removes a key. -/
def erase (key : String) : Entries α → Entries α
  | [] => []
  | (k, v) :: es => if key = k then es else (k, v) :: erase key es

/-- Whether a key is present. -/
def contains (key : String) (es : Entries α) : Bool := (get? key es).isSome

/-- The entries of a list of pairs; of equal keys the last one counts. -/
def ofList (pairs : List (String × α)) : Entries α :=
  pairs.foldl (fun es pair => insert pair.1 pair.2 es) []

/-- The keys, in order. -/
def keys (es : Entries α) : List String := es.map Prod.fst

@[simp] theorem get?_nil (key : String) : get? key ([] : Entries α) = none := rfl

/-- A value found under a key is an entry. -/
theorem mem_of_get? {key : String} {value : α} {es : Entries α} (h : get? key es = some value) :
    (key, value) ∈ es := by
  induction es with
  | nil => cases h
  | cons e es ih =>
    obtain ⟨k, v⟩ := e
    simp only [get?] at h
    split at h
    · next he => cases h; subst he; exact List.mem_cons_self
    · exact List.mem_cons_of_mem _ (ih h)

@[simp] theorem get?_insert_self (key : String) (value : α) (es : Entries α) :
    get? key (insert key value es) = some value := by
  induction es with
  | nil => simp [insert, get?]
  | cons e es ih =>
    obtain ⟨k, v⟩ := e
    simp only [insert]
    split
    · simp [get?]
    · next hne =>
      split
      · simp [get?]
      · simp [get?, hne, ih]

theorem get?_insert_of_ne {key other : String} (h : other ≠ key) (value : α) (es : Entries α) :
    get? other (insert key value es) = get? other es := by
  induction es with
  | nil => simp [insert, get?, h]
  | cons e es ih =>
    obtain ⟨k, v⟩ := e
    simp only [insert]
    split
    · next hk => subst hk; simp [get?, h]
    · split
      · simp [get?, h]
      · simp only [get?, ih]

theorem get?_insert (key other : String) (value : α) (es : Entries α) :
    get? other (insert key value es) = if other = key then some value else get? other es := by
  split
  · next h => subst h; exact get?_insert_self other value es
  · next h => exact get?_insert_of_ne h value es

theorem get?_erase_of_ne {key other : String} (h : other ≠ key) (es : Entries α) :
    get? other (erase key es) = get? other es := by
  induction es with
  | nil => rfl
  | cons e es ih =>
    obtain ⟨k, v⟩ := e
    simp only [erase]
    split
    · next hk => subst hk; simp [get?, h]
    · simp only [get?, ih]

/-! ## Key order -/

@[simp] theorem sorted_nil : Sorted ([] : Entries α) := List.Pairwise.nil

theorem sorted_cons {k : String} {v : α} {es : Entries α} :
    Sorted ((k, v) :: es) ↔ (∀ e ∈ es, k < e.1) ∧ Sorted es := List.pairwise_cons

/-- A key before the first one is absent. -/
theorem get?_eq_none_of_lt {key : String} {es : Entries α} (h : ∀ e ∈ es, key < e.1) :
    get? key es = none := by
  induction es with
  | nil => rfl
  | cons e es ih =>
    obtain ⟨k, v⟩ := e
    have hk : key < k := h (k, v) List.mem_cons_self
    have hne : key ≠ k := fun he => String.lt_irrefl k (he ▸ hk)
    simp only [get?, hne, if_false]
    exact ih fun e he => h e (List.mem_cons_of_mem _ he)

theorem get?_erase_self {key : String} {es : Entries α} (h : Sorted es) :
    get? key (erase key es) = none := by
  induction es with
  | nil => rfl
  | cons e es ih =>
    obtain ⟨k, v⟩ := e
    obtain ⟨hk, hes⟩ := sorted_cons.1 h
    simp only [erase]
    split
    · next he => subst he; exact get?_eq_none_of_lt hk
    · next hne => simp only [get?, hne, if_false]; exact ih hes

theorem get?_erase {key other : String} {es : Entries α} (h : Sorted es) :
    get? other (erase key es) = if other = key then none else get? other es := by
  split
  · next he => subst he; exact get?_erase_self h
  · next hne => exact get?_erase_of_ne hne es

/-- The entries after an insertion are the new one and old ones. -/
theorem mem_insert {key : String} {value : α} {e : String × α} {es : Entries α}
    (h : e ∈ insert key value es) : e = (key, value) ∨ e ∈ es := by
  induction es with
  | nil => exact .inl (List.mem_singleton.1 h)
  | cons d es ih =>
    obtain ⟨k, v⟩ := d
    simp only [insert] at h
    split at h
    · exact (List.mem_cons.1 h).imp_right (List.mem_cons_of_mem _)
    · split at h
      · exact List.mem_cons.1 h
      · rcases List.mem_cons.1 h with rfl | h
        · exact .inr List.mem_cons_self
        · exact (ih h).imp_right (List.mem_cons_of_mem _)

theorem Sorted.insert {es : Entries α} (h : Sorted es) (key : String) (value : α) :
    Sorted (Entries.insert key value es) := by
  induction es with
  | nil => exact List.pairwise_singleton _ _
  | cons e es ih =>
    obtain ⟨k, v⟩ := e
    obtain ⟨hk, hes⟩ := sorted_cons.1 h
    simp only [Entries.insert]
    split
    · next he => subst he; exact sorted_cons.2 ⟨hk, hes⟩
    · next hne =>
      split
      · next hlt =>
        refine sorted_cons.2 ⟨fun e he => ?_, h⟩
        rcases List.mem_cons.1 he with rfl | he
        · exact hlt
        · exact String.lt_trans hlt (hk e he)
      · next hlt =>
        have hgt : k < key := by
          rcases Std.lt_trichotomy key k with h | h | h
          · exact absurd h hlt
          · exact absurd h hne
          · exact h
        refine sorted_cons.2 ⟨fun e he => ?_, ih hes⟩
        rcases mem_insert he with rfl | he
        · exact hgt
        · exact hk e he

theorem mem_of_mem_erase {key : String} {e : String × α} {es : Entries α}
    (h : e ∈ erase key es) : e ∈ es := by
  induction es with
  | nil => exact h
  | cons d es ih =>
    obtain ⟨k, v⟩ := d
    simp only [erase] at h
    split at h
    · exact List.mem_cons_of_mem _ h
    · rcases List.mem_cons.1 h with rfl | h
      · exact List.mem_cons_self
      · exact List.mem_cons_of_mem _ (ih h)

theorem Sorted.erase {es : Entries α} (h : Sorted es) (key : String) :
    Sorted (Entries.erase key es) := by
  induction es with
  | nil => exact h
  | cons e es ih =>
    obtain ⟨k, v⟩ := e
    obtain ⟨hk, hes⟩ := sorted_cons.1 h
    simp only [Entries.erase]
    split
    · exact hes
    · exact sorted_cons.2 ⟨fun e he => hk e (mem_of_mem_erase he), ih hes⟩

/-- Entries made from pairs are among the pairs. -/
theorem mem_of_mem_ofList {pairs : List (String × α)} {e : String × α} (h : e ∈ ofList pairs) :
    e ∈ pairs := by
  suffices ∀ es : Entries α, e ∈ pairs.foldl (fun es pair => Entries.insert pair.1 pair.2 es) es →
      e ∈ es ∨ e ∈ pairs from (this [] h).resolve_left List.not_mem_nil
  clear h
  induction pairs with
  | nil => exact fun es h => .inl h
  | cons pair pairs ih =>
    intro es h
    rcases ih _ h with h | h
    · rcases mem_insert h with rfl | h
      · exact .inr List.mem_cons_self
      · exact .inl h
    · exact .inr (List.mem_cons_of_mem _ h)

/-- Entries in key order are determined by their view. -/
theorem ext_of_sorted {es fs : Entries α} (he : Sorted es) (hf : Sorted fs)
    (h : ∀ key, get? key es = get? key fs) : es = fs := by
  induction es generalizing fs with
  | nil =>
    cases fs with
    | nil => rfl
    | cons f fs => have := h f.1; simp [get?] at this
  | cons e es ih =>
    obtain ⟨j, v⟩ := e
    cases fs with
    | nil => have := h j; simp [get?] at this
    | cons f fs =>
      obtain ⟨k, w⟩ := f
      obtain ⟨hj, hes⟩ := sorted_cons.1 he
      obtain ⟨hk, hfs⟩ := sorted_cons.1 hf
      have before {key k' : String} {u : α} {gs : Entries α} (hlt : key < k')
          (hgs : ∀ e ∈ gs, k' < e.1) : get? key ((k', u) :: gs) = none :=
        get?_eq_none_of_lt fun e he => (List.mem_cons.1 he).elim (fun h => h ▸ hlt)
          fun he => String.lt_trans hlt (hgs e he)
      have first : j = k := by
        rcases Std.lt_trichotomy j k with hlt | heq | hgt
        · have := h j; rw [before hlt hk] at this; simp [get?] at this
        · exact heq
        · have := h k; rw [before hgt hj] at this; simp [get?] at this
      subst first
      have value : v = w := by simpa [get?] using h j
      subst value
      refine congrArg _ (ih hes hfs fun key => ?_)
      by_cases hkey : key = j
      · subst hkey; rw [get?_eq_none_of_lt hj, get?_eq_none_of_lt hk]
      · simpa [get?, hkey] using h key

end Entries

end LayeredConfig
