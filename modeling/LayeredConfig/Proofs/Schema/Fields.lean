import LayeredConfig.Proofs.Entries
import LayeredConfig.Schema.Loader

/-!
# The members that casts use up

A cast takes the members of its node one after the other, and what it leaves is refused. Which names an
operation takes (`Loader.Using.Takes`) follows from those of its steps, whatever the members hold. So the
members of a cast that can be read have the names that its type takes (`Loader.keys_of_takes`).
-/

namespace LayeredConfig.Loader

/-- A computation after another one gives a result if the other one does. -/
theorem bind_eq_ok_iff {α β : Type} {first : Except SchemaError α}
    {next : α → Except SchemaError β} {b : β} :
    first >>= next = .ok b ↔ ∃ a, first = .ok a ∧ next a = .ok b := by
  cases first with
  | error e => exact ⟨nofun, fun ⟨_, h, _⟩ => nomatch h⟩
  | ok a => exact ⟨fun h => ⟨a, rfl, h⟩, fun ⟨_, h, hb⟩ => by cases h; exact hb⟩

namespace Fields

variable {fields : Fields} {name other key : String} {names : List String}

/-- The members without those of some names. -/
def withoutAll (fields : Fields) (names : List String) : Fields := names.foldl without fields

/-- A member of another name stays. -/
theorem get?_without (h : other ≠ name) :
    Entries.get? other (fields.without name).remaining = Entries.get? other fields.remaining :=
  Entries.get?_erase_of_ne h fields.remaining

/-- A key is one of the names that are taken away, or it stays. -/
theorem mem_or_mem_withoutAll (h : key ∈ Entries.keys fields.remaining) :
    key ∈ names ∨ key ∈ Entries.keys (fields.withoutAll names).remaining := by
  induction names generalizing fields with
  | nil => exact .inr h
  | cons name names ih =>
    by_cases hname : key = name
    · exact .inl (hname ▸ List.mem_cons_self)
    · have hstays : key ∈ Entries.keys (fields.without name).remaining := by
        rw [← Entries.isSome_get?_iff] at h ⊢
        rwa [get?_without hname]
      exact (ih hstays).imp_left (List.mem_cons_of_mem _)

/-- All members but the type of a cast are to be used. -/
theorem get?_ofMembers {typeName : String} {members : Entries Reading} (h : name ≠ "type") :
    Entries.get? name (ofMembers typeName members).remaining = Entries.get? name members := by
  induction members with
  | nil => rfl
  | cons member members ih =>
    obtain ⟨key, reading⟩ := member
    by_cases htype : key = "type"
    · have hname : name ≠ key := htype ▸ h
      simpa [ofMembers, Entries.get?, htype, h] using ih
    · by_cases hname : name = key
      · simp [ofMembers, Entries.get?, htype, hname]
      · simpa [ofMembers, Entries.get?, htype, hname] using ih

/-- Nothing is left over just if all members were used. -/
theorem finish_eq_ok_iff : fields.finish = .ok () ↔ fields.remaining = [] := by
  unfold finish
  split
  · next h => simp [h]
  · next h => simp [h]

end Fields

namespace Using

variable {α β : Type} {fields rest : Fields} {name : String} {names names' : List String}

/-- An operation after another one works on what that one has left. -/
theorem run_bind_eq_ok_iff {first : Using α} {next : α → Using β} {b : β} :
    (first >>= next).run fields = .ok (b, rest) ↔
      ∃ a left, first.run fields = .ok (a, left) ∧ (next a).run left = .ok (b, rest) := by
  rw [StateT.run_bind, bind_eq_ok_iff, Prod.exists]

/-- What needs no members leaves them all. -/
theorem run_lift_eq_ok_iff {result : Except SchemaError α} {a : α} :
    (liftM result : Using α).run fields = .ok (a, rest) ↔ result = .ok a ∧ rest = fields := by
  cases result with
  | error e => exact ⟨nofun, nofun⟩
  | ok b =>
    constructor
    · rintro ⟨⟩
      exact ⟨rfl, rfl⟩
    · rintro ⟨⟨⟩, rfl⟩
      rfl

/-- Taking a member always succeeds, with what its name holds, and leaves the others. -/
theorem run_take_eq_ok_iff {found : Option Reading} : (take name).run fields = .ok (found, rest) ↔
    found = Entries.get? name fields.remaining ∧ rest = fields.without name := by
  have hrun : (take name).run fields = .ok (Entries.get? name fields.remaining, fields.without name) := rfl
  rw [hrun, Except.ok.injEq, Prod.mk.injEq, eq_comm, @eq_comm _ rest]

/-- An operation that succeeds leaves the members without those of these names. -/
def Takes (names : List String) (operation : Using α) : Prop :=
  ∀ fields a rest, operation.run fields = .ok (a, rest) → rest = fields.withoutAll names

theorem takes_pure (a : α) : Takes [] (pure a : Using α) := by
  rintro fields _ rest ⟨⟩
  rfl

/-- A failure leaves nothing to be said about what was taken. -/
theorem takes_throw (names : List String) (e : SchemaError) : Takes names (throw e : Using α) := by
  rintro fields a rest ⟨⟩

/-- One operation after another takes the names of both. -/
theorem Takes.bind {first : Using α} {next : α → Using β} (hfirst : Takes names first)
    (hnext : ∀ a, Takes names' (next a)) : Takes (names ++ names') (first >>= next) := by
  intro fields b rest h
  obtain ⟨a, left, hrun, hrest⟩ := run_bind_eq_ok_iff.1 h
  rw [hnext a left b rest hrest, hfirst fields a left hrun, Fields.withoutAll, Fields.withoutAll,
    Fields.withoutAll, List.foldl_append]

/-- What only looks at a result and fails or goes on with it takes no more names. -/
theorem Takes.check {first : Using α} {next : α → Using β} (hfirst : Takes names first)
    (hnext : ∀ a, Takes [] (next a)) : Takes names (first >>= next) :=
  List.append_nil names ▸ hfirst.bind hnext

/-- Taking a member takes its name. -/
theorem takes_take (name : String) : Takes [name] (take name) := by
  intro fields found rest h
  exact (run_take_eq_ok_iff.1 h).2

/-- Looking at what was taken before takes nothing. -/
theorem takes_lift (result : Except SchemaError α) : Takes [] (liftM result : Using α) := by
  intro fields a rest h
  exact (run_lift_eq_ok_iff.1 h).2

/-- Reading an optional text takes its name. -/
theorem takes_text? (name : String) : Takes [name] (text? name) := by
  refine (takes_take name).check fun found => ?_
  cases found with
  | none => exact takes_pure none
  | some reading =>
    dsimp only
    split
    · exact takes_pure _
    · rintro fields a rest ⟨⟩

theorem takes_text (name : String) : Takes [name] (text name) := by
  refine (takes_text? name).check fun found => ?_
  cases found with
  | none => rintro fields a rest ⟨⟩
  | some s => exact takes_pure s

theorem takes_cast? (name : String) : Takes [name] (cast? name) := by
  refine (takes_take name).check fun found => ?_
  cases found with
  | none => exact takes_pure none
  | some reading => exact (takes_lift reading.cast).check fun change => takes_pure (some change)

/-- A cast that is taken is what the member of its name says. -/
theorem cast?_eq_ok {found : Option Cast} (h : (cast? name).run fields = .ok (found, rest)) :
    (∀ change ∈ found, ∃ reading, Entries.get? name fields.remaining = some reading ∧
        reading.cast = .ok change) ∧
      ∀ reading, Entries.get? name fields.remaining = some reading →
        ∃ change, reading.cast = .ok change := by
  obtain ⟨member, left, htake, h⟩ := run_bind_eq_ok_iff.1 h
  rw [← (run_take_eq_ok_iff.1 htake).1]
  cases member with
  | none =>
    cases h
    refine ⟨fun _ hchange => ?_, fun _ hmember => ?_⟩
    · cases hchange
    · cases hmember
  | some reading =>
    obtain ⟨change, _, hcast, h⟩ := run_bind_eq_ok_iff.1 h
    have hread : reading.cast = .ok change := (run_lift_eq_ok_iff.1 hcast).1
    cases h
    refine ⟨?_, ?_⟩
    · rintro _ ⟨⟩
      exact ⟨reading, rfl, hread⟩
    · rintro _ ⟨⟩
      exact ⟨change, hread⟩

end Using

/-! ## The operations of the casts -/

open Using

/-- The cast by an expression takes its operation. -/
theorem takes_expressionCast : Takes ["operation"] expressionCast := by
  refine (takes_text "operation").check fun operation => ?_
  split
  · exact takes_throw _ _
  · exact takes_pure _

theorem takes_encodingCast : Takes ["value", "encoding"] encodingCast := by
  refine (takes_text? "value").bind fun literal => (takes_text? "encoding").check fun name => ?_
  split
  · exact takes_pure _
  · split
    · exact takes_throw _ _
    · exact takes_pure _

theorem takes_functionCast (functions : FunctionTable) :
    Takes ["module", "attribute", "cast_before"] (functionCast functions) := by
  refine (takes_text "module").bind fun module => (takes_text "attribute").bind fun member =>
    (takes_cast? "cast_before").check fun before => ?_
  split
  · exact takes_throw _ _
  · exact takes_pure _

variable {loader : Loader} {typeName : String} {members : Entries Reading} {change : Cast}

/-- A cast by a function calls one of the table, after the cast that a member gives. -/
theorem functionCast_eq_ok {functions : FunctionTable} {rest : Fields}
    (h : (functionCast functions).run (.ofMembers typeName members) = .ok (change, rest)) :
    ∃ module member f before, change = .call module member f before ∧
      functions.find? module member = some f ∧
      (∀ b ∈ before, ∃ reading, Entries.get? "cast_before" members = some reading ∧
        reading.cast = .ok b) ∧
      ∀ reading, Entries.get? "cast_before" members = some reading → ∃ b, reading.cast = .ok b := by
  obtain ⟨module, left, hmodule, h⟩ := run_bind_eq_ok_iff.1 h
  obtain ⟨member, left', hmember, h⟩ := run_bind_eq_ok_iff.1 h
  obtain ⟨before, left'', hbefore, h⟩ := run_bind_eq_ok_iff.1 h
  -- what was taken before has other names
  have hget : Entries.get? "cast_before" left'.remaining = Entries.get? "cast_before" members := by
    have hattribute : "cast_before" ≠ "attribute" := by decide
    have hmodule' : "cast_before" ≠ "module" := by decide
    have htype : "cast_before" ≠ "type" := by decide
    rw [takes_text _ _ _ _ hmember, takes_text _ _ _ _ hmodule]
    exact (Fields.get?_without hattribute).trans
      ((Fields.get?_without hmodule').trans (Fields.get?_ofMembers htype))
  have hcast := cast?_eq_ok hbefore
  rw [hget] at hcast
  split at h
  · cases h
  · next f hf =>
    cases h
    exact ⟨module, member, f, before, rfl, hf, hcast⟩

/-- A cast is made by the operation of its type, which leaves no member. -/
theorem castOf_eq_ok_iff : loader.castOf members = .ok change ↔
    ∃ typeName rest, requireType members = .ok typeName ∧
      (loader.castOfType typeName).run (.ofMembers typeName members) = .ok (change, rest) ∧
      rest.finish = .ok () := by
  simp only [castOf, bind_eq_ok_iff, Prod.exists]
  constructor
  · rintro ⟨typeName, htype, _, rest, hrun, _, hfinish, ⟨⟩⟩
    exact ⟨typeName, rest, htype, hrun, hfinish⟩
  · rintro ⟨typeName, rest, htype, hrun, hfinish⟩
    exact ⟨typeName, htype, change, rest, hrun, (), hfinish, rfl⟩

/-- If an operation leaves none of the members, they have the names that it takes. -/
theorem keys_of_takes {names : List String} {operation : Using Cast} (htakes : Takes names operation)
    {rest : Fields} (hrun : operation.run (.ofMembers typeName members) = .ok (change, rest))
    (hfinish : rest.finish = .ok ()) : ∀ key ∈ Entries.keys members, key = "type" ∨ key ∈ names := by
  intro key hkey
  by_cases htype : key = "type"
  · exact .inl htype
  · have hmember : key ∈ Entries.keys (Fields.ofMembers typeName members).remaining := by
      rw [← Entries.isSome_get?_iff] at hkey ⊢
      rwa [Fields.get?_ofMembers htype]
    refine .inr ((Fields.mem_or_mem_withoutAll hmember).resolve_right ?_)
    rw [← htakes _ _ _ hrun, Fields.finish_eq_ok_iff.1 hfinish]
    exact List.not_mem_nil

end LayeredConfig.Loader
