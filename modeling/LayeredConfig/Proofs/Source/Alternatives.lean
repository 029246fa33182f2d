import LayeredConfig.Proofs.Source.Outcomes

/-!
# Alternatives among alternatives

Alternatives that stand as one part of others can be written in their place: the value is the same, and
if all fail, the error has the causes of the inner ones together where the flat one has them one by one.
A default is an alternative too, the last one, which never fails. `alternatives_flatten` is the main
statement; `nested_cases` compares the two on the outcomes of the parts.
-/

namespace LayeredConfig.Source

/-- Nested and flat alternatives have one value, or they fail with the causes of all parts, of which the
inner ones stand together in one of the two errors. -/
theorem nested_cases (w : World) (xs ys zs : List Source) :
    (∃ v, (alternatives (xs ++ [alternatives ys] ++ zs)).resolve w = .ok v ∧
      (alternatives (xs ++ ys ++ zs)).resolve w = .ok v) ∨
    ∃ before inner after : List ResolveError, before.length = xs.length ∧
      (alternatives (xs ++ [alternatives ys] ++ zs)).resolve w =
        .error (.allFailed (before ++ .allFailed inner :: after)) ∧
      (alternatives (xs ++ ys ++ zs)).resolve w = .error (.allFailed (before ++ inner ++ after)) := by
  simp only [resolve_alternatives, List.map_append, List.map_cons, List.map_nil]
  generalize hxs : xs.map (resolve w) = before, ys.map (resolve w) = inner,
    zs.map (resolve w) = after
  -- where the first value stands decides: before the inner ones, among them, behind them or nowhere
  rcases failures_or_value before with ⟨causes, rfl⟩ | ⟨causes, v, later, rfl⟩
  · have hlength : causes.length = xs.length := by
      rw [← List.length_map (f := Except.error), ← hxs, List.length_map]
    rcases failures_or_value inner with ⟨innerCauses, rfl⟩ | ⟨innerCauses, v, later, rfl⟩
    · -- the inner error is one more cause
      have hnested : causes.map Except.error ++ [firstOutcome (innerCauses.map .error)] =
          (causes ++ [ResolveError.allFailed innerCauses]).map .error := by
        rw [firstOutcome_failures, List.map_append]
        rfl
      rw [hnested, ← List.map_append]
      rcases failures_or_value after with ⟨afterCauses, rfl⟩ | ⟨afterCauses, v, later, rfl⟩
      · refine .inr ⟨causes, innerCauses, afterCauses, hlength, ?_, ?_⟩
        · rw [← List.map_append, firstOutcome_failures, List.append_assoc, List.singleton_append]
        · rw [← List.map_append, firstOutcome_failures]
      · refine .inl ⟨v, ?_, ?_⟩
        · rw [← List.append_assoc, ← List.map_append, firstOutcome_failures_value]
        · rw [← List.append_assoc, ← List.map_append, firstOutcome_failures_value]
    · refine .inl ⟨v, ?_, ?_⟩
      · rw [firstOutcome_failures_value, List.append_assoc, List.singleton_append,
          firstOutcome_failures_value]
      · rw [← List.append_assoc, ← List.map_append, List.append_assoc, List.cons_append,
          firstOutcome_failures_value]
  · refine .inl ⟨v, ?_, ?_⟩
    · rw [List.append_assoc, List.append_assoc, List.cons_append, firstOutcome_failures_value]
    · rw [List.append_assoc, List.append_assoc, List.cons_append, firstOutcome_failures_value]

variable {w : World} {sources : List Source} {v : Value} {e : ResolveError}

/-- Alternatives fail where all of them do, with the causes in order. -/
theorem resolve_alternatives_eq_error_iff : (alternatives sources).resolve w = .error e ↔
    ∃ causes, e = .allFailed causes ∧ sources.map (resolve w) = causes.map .error := by
  rw [resolve_alternatives, firstOutcome_eq_error_iff]

/-- Alternatives have the value of the first of them that has one. -/
theorem resolve_alternatives_eq_ok_iff : (alternatives sources).resolve w = .ok v ↔
    ∃ earlier source later, sources = earlier ++ source :: later ∧
      (∀ failing ∈ earlier, ∃ e, failing.resolve w = .error e) ∧ source.resolve w = .ok v := by
  rw [resolve_alternatives, firstOutcome_eq_ok_iff]
  constructor
  · rintro ⟨causes, later, hsplit⟩
    obtain ⟨earlier, rest, rfl, hearlier, hrest⟩ := List.map_eq_append_iff.1 hsplit
    obtain ⟨source, others, rfl, hsource, -⟩ := List.map_eq_cons_iff.1 hrest
    refine ⟨earlier, source, others, rfl, fun failing hmem => ?_, hsource⟩
    have hfails : failing.resolve w ∈ causes.map .error := hearlier ▸ List.mem_map_of_mem hmem
    obtain ⟨e, -, he⟩ := List.mem_map.1 hfails
    exact ⟨e, he.symm⟩
  · rintro ⟨earlier, source, later, rfl, hfails, hsource⟩
    rcases failures_or_value (earlier.map (resolve w)) with ⟨causes, hcauses⟩ | ⟨causes, u, rest, hvalue⟩
    · exact ⟨causes, later.map (resolve w), by rw [List.map_append, List.map_cons, hcauses, hsource]⟩
    · -- none of the earlier ones has a value
      have hmem : .ok u ∈ earlier.map (resolve w) := by
        rw [hvalue]
        exact List.mem_append_right _ List.mem_cons_self
      obtain ⟨failing, hfailing, hu⟩ := List.mem_map.1 hmem
      obtain ⟨e, he⟩ := hfails failing hfailing
      cases hu.symm.trans he

/-- A default steps in like an alternative after the source, one that does not fail. -/
theorem resolve_optional (w : World) (source : Source) (default : Value) :
    (optional source default).resolve w = (alternatives [source, static default]).resolve w := by
  rw [resolve_alternatives, List.map_cons, List.map_cons, List.map_nil]
  cases h : source.resolve w with
  | ok v => simp only [resolve, h, firstOutcome, firstOutcomeAfter]
  | error e => simp only [resolve, h, firstOutcome, firstOutcomeAfter]

/-- **Alternatives flatten, and a default is one of them.** Alternatives have the value of the first source
with a value; if there is none, they fail with what each source fails with, in order. So alternatives in the
midst of others have a value if and only if all of them in one list do, the same one. If they fail, the
inner causes stand together in one place of the error, and with these put in its stead it is the error of
the flat ones. A source with a default is the source with a fixed value after it. -/
theorem alternatives_flatten (w : World) :
    (∀ sources v, (alternatives sources).resolve w = .ok v ↔
      ∃ earlier source later, sources = earlier ++ source :: later ∧
        (∀ failing ∈ earlier, ∃ e, failing.resolve w = .error e) ∧ source.resolve w = .ok v) ∧
    (∀ sources e, (alternatives sources).resolve w = .error e ↔
      ∃ causes, e = .allFailed causes ∧ sources.map (resolve w) = causes.map .error) ∧
    (∀ xs ys zs v, (alternatives (xs ++ [alternatives ys] ++ zs)).resolve w = .ok v ↔
      (alternatives (xs ++ ys ++ zs)).resolve w = .ok v) ∧
    (∀ xs ys zs outer,
      (alternatives (xs ++ [alternatives ys] ++ zs)).resolve w = .error (.allFailed outer) →
      ∃ inner, outer[xs.length]? = some (.allFailed inner) ∧
        (alternatives (xs ++ ys ++ zs)).resolve w =
          .error (.allFailed (outer.take xs.length ++ inner ++ outer.drop (xs.length + 1)))) ∧
    ∀ source default, (optional source default).resolve w =
      (alternatives [source, static default]).resolve w := by
  refine ⟨fun sources v => resolve_alternatives_eq_ok_iff,
    fun sources e => resolve_alternatives_eq_error_iff, fun xs ys zs v => ?_,
    fun xs ys zs outer houter => ?_, resolve_optional w⟩
  · rcases nested_cases w xs ys zs with ⟨u, hnested, hflat⟩ | ⟨_, _, _, _, hnested, hflat⟩
    · rw [hnested, hflat]
    · rw [hnested, hflat]
      exact iff_of_false nofun nofun
  · rcases nested_cases w xs ys zs with ⟨u, hnested, -⟩ | ⟨before, inner, after, hlength, hnested, hflat⟩
    · cases hnested.symm.trans houter
    · cases hnested.symm.trans houter
      rw [← hlength, hflat]
      refine ⟨inner, ?_, ?_⟩
      · rw [List.getElem?_append_right (Nat.le_refl _), Nat.sub_self, List.getElem?_cons_zero]
      · rw [List.take_left, List.drop_length_add_append, List.drop_succ_cons, List.drop_zero]

/-- A variable that is not set. -/
def missing (name : String) : Source := environment name name none none

/-- Two variables are looked for between another one and a file, and nothing is found. The causes of the
two, which stand together in the error, take their places in the flat one. -/
theorem alternatives_flatten_missing :
    (alternatives ([missing "A"] ++ [alternatives [missing "B", missing "C"]] ++
        [file "app.json" .utf8 .all])).resolve .empty =
      .error (.allFailed [.missingVariable "A",
        .allFailed [.missingVariable "B", .missingVariable "C"], .fileNotFound "app.json"]) ∧
    (alternatives ([missing "A"] ++ [missing "B", missing "C"] ++
        [file "app.json" .utf8 .all])).resolve .empty =
      .error (.allFailed [.missingVariable "A", .missingVariable "B", .missingVariable "C",
        .fileNotFound "app.json"]) := by
  obtain ⟨-, -, -, hsplice, -⟩ := alternatives_flatten .empty
  have hnested : (alternatives ([missing "A"] ++ [alternatives [missing "B", missing "C"]] ++
      [file "app.json" .utf8 .all])).resolve .empty =
        .error (.allFailed [.missingVariable "A",
          .allFailed [.missingVariable "B", .missingVariable "C"], .fileNotFound "app.json"]) := rfl
  obtain ⟨inner, hinner, hflat⟩ := hsplice _ _ _ _ hnested
  cases hinner
  exact ⟨hnested, hflat⟩

end LayeredConfig.Source
