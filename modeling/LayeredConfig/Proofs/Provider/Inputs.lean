import LayeredConfig.Provider
import LayeredConfig.Proofs.Source.Merging

/-!
# Ways to load several schema nodes

Schema nodes can be given to a provider one by one, to a loader as a list, or as a text. All three load
the nodes in order and stop at the first that is refused (`Loader.FirstFault`). A provider takes a single
source as it is where a list merges it; laid over the empty map, every value stays what it is, so that
makes no difference (`Source.resolve_merging_singleton`).
-/

namespace LayeredConfig

namespace Loader

variable {loader : Loader} {nodes : List Json} {cause : SchemaError}

/-- The first node that is refused is refused for this cause. -/
def FirstFault (loader : Loader) (nodes : List Json) (cause : SchemaError) : Prop :=
  ∃ earlier node later, nodes = earlier ++ node :: later ∧
    (∀ n ∈ earlier, ∃ source, loader.loadSource n = .ok source) ∧
    loader.loadSource node = .error cause

theorem not_firstFault_nil : ¬ loader.FirstFault [] cause := by
  rintro ⟨earlier, node, later, heq, -⟩
  simp at heq

/-- A node that fails to load is the first fault. -/
theorem firstFault_cons_of_error {node : Json} {e : SchemaError}
    (h : loader.loadSource node = .error e) : loader.FirstFault (node :: nodes) cause ↔ cause = e := by
  constructor
  · rintro ⟨earlier, n, later, heq, hearlier, hn⟩
    cases earlier with
    | nil =>
      cases heq
      exact Except.error.inj (hn.symm.trans h)
    | cons first earlier =>
      cases heq
      obtain ⟨source, hsource⟩ := hearlier _ List.mem_cons_self
      cases hsource.symm.trans h
  · rintro rfl
    exact ⟨[], node, nodes, rfl, nofun, h⟩

theorem firstFault_cons_of_ok {node : Json} {source : Source} (h : loader.loadSource node = .ok source) :
    loader.FirstFault (node :: nodes) cause ↔ loader.FirstFault nodes cause := by
  constructor
  · rintro ⟨earlier, n, later, heq, hearlier, hn⟩
    cases earlier with
    | nil =>
      cases heq
      cases hn.symm.trans h
    | cons first earlier =>
      cases heq
      exact ⟨earlier, n, later, rfl, fun m hm => hearlier m (List.mem_cons_of_mem _ hm), hn⟩
  · rintro ⟨earlier, n, later, rfl, hearlier, hn⟩
    exact ⟨node :: earlier, n, later, rfl, List.forall_mem_cons.2 ⟨⟨source, h⟩, hearlier⟩, hn⟩

/-- Loading nodes in order fails with the first fault. -/
theorem loadSources_eq_error_iff :
    loader.loadSources nodes = .error cause ↔ loader.FirstFault nodes cause := by
  induction nodes with
  | nil => simp [loadSources, not_firstFault_nil]
  | cons node nodes ih =>
    simp only [loadSources]
    cases hnode : loader.loadSource node with
    | error e => simp [firstFault_cons_of_error hnode, eq_comm]
    | ok source =>
      rw [firstFault_cons_of_ok hnode, ← ih]
      cases loader.loadSources nodes <;> simp

end Loader

namespace Source

/-- A merge of one source is that source, also if its value is no map. -/
theorem resolve_merging_singleton (source : Source) (w : World) :
    (merging [source] .raise).resolve w = source.resolve w := by
  simp only [resolve, resolveAll, mergeOutcomes]
  cases source.resolve w with
  | error e => rfl
  | ok v => simp [mergeOutcomesOnto]

end Source

namespace Provider

/-- One source is taken as it is, which is no different from merging it. -/
theorem resolve_combine (sources : List Source) (w : World) :
    (combine sources).resolve w = (Source.merging sources .raise).resolve w := by
  match sources with
  | [source] => exact (Source.resolve_merging_singleton source w).symm
  | [] | _ :: _ :: _ => rfl

/-- Inputs that are schema nodes are loaded like a list of nodes. -/
theorem loadInputs_schema (loader : Loader) (nodes : List Json) :
    loadInputs loader (nodes.map .schema) = loader.loadSources nodes := by
  induction nodes with
  | nil => rfl
  | cons node nodes ih =>
    cases hload : loader.loadSource node with
    | error e => simp only [List.map_cons, loadInputs, Input.load, Loader.loadSources, hload]
    | ok source =>
      cases hrest : loader.loadSources nodes <;>
        simp only [List.map_cons, loadInputs, Input.load, Loader.loadSources, hload, ih, hrest]

/-- **The ways to load schemas agree.** A provider is built of schema nodes if and only if they can be
loaded as a list; otherwise both fail for the cause of the first node that is refused. The two sources
have the same value or the same failure in every world: a provider takes a single source as it is, where
a list merges it, but a value of any kind laid over the empty map is that value, and the entries of a map
laid over it one after the other are the entries again. A text that is read as an array of the nodes is
loaded like the list. -/
theorem ofInputs_agrees (loader : Loader) (nodes : List Json) :
    ((∃ provider, ofInputs loader (nodes.map .schema) = .ok provider) ↔
        ∃ source, loader.loadList nodes = .ok source) ∧
      (∀ e, ofInputs loader (nodes.map .schema) = .error e ↔
        ∃ cause, e = .schema cause ∧ loader.FirstFault nodes cause) ∧
      (∀ cause, loader.loadList nodes = .error cause ↔ loader.FirstFault nodes cause) ∧
      (∀ provider source, ofInputs loader (nodes.map .schema) = .ok provider →
        loader.loadList nodes = .ok source → ∀ w, provider.source.resolve w = source.resolve w) ∧
      (∀ (source : Source) (w : World),
        (combine [source]).resolve w = (Source.merging [source] .raise).resolve w) ∧
      (∀ entries : Entries Value, entries.Sorted → Value.mergeEntries [] entries = entries) ∧
      ∀ text, Json.read? text = some (.array nodes) → loader.loadText text = loader.loadList nodes := by
  simp only [← Loader.loadSources_eq_error_iff, ofInputs, loadInputs_schema, Loader.loadList]
  refine ⟨?_, fun e => ?_, fun cause => ?_, fun provider source hbuilt hloaded w => ?_,
    fun source w => resolve_combine [source] w, fun _ => Value.mergeEntries_nil, fun text hread => ?_⟩
  · cases loader.loadSources nodes <;> simp [Except.map]
  · cases loader.loadSources nodes <;> simp [eq_comm]
  · cases loader.loadSources nodes <;> simp [Except.map]
  · cases hsources : loader.loadSources nodes with
    | error e => simp [hsources] at hbuilt
    | ok sources =>
      simp only [hsources, Except.map, Except.ok.injEq] at hbuilt hloaded
      rw [← hbuilt, ← hloaded]
      exact resolve_combine sources w
  · rw [Loader.loadText, hread]
    rfl

/-- A single node, whose value is no map. -/
def plainNode : Json := .object [("config", .string "plain"), ("type", .string "StaticSource")]

/-- The node as a text. -/
def plainText : String := "[\x7b\"config\": \"plain\", \"type\": \"StaticSource\"\x7d]"

theorem toList_plainText : plainText.toList =
    ['[', '\x7b', '"', 'c', 'o', 'n', 'f', 'i', 'g', '"', ':', ' ', '"', 'p', 'l', 'a', 'i', 'n', '"', ',',
      ' ', '"', 't', 'y', 'p', 'e', '"', ':', ' ', '"', 'S', 't', 'a', 't', 'i', 'c', 'S', 'o', 'u', 'r', 'c',
      'e', '"', '\x7d', ']'] := by
  decide +kernel

/-- A single node that is no map is the same source for a provider, a list and a text. -/
theorem ofInputs_plainNode : Json.read? plainText = some (.array [plainNode]) ∧
    ∃ provider source, ofInputs .builtins [.schema plainNode] = .ok provider ∧
      Loader.builtins.loadText plainText = .ok source ∧
      ∀ w, provider.source.resolve w = source.resolve w := by
  have hread : Json.read? plainText = some (.array [plainNode]) := by
    rw [Json.read?, toList_plainText]
    rfl
  obtain ⟨hloads, -, -, hsame, -, -, htext⟩ := ofInputs_agrees .builtins [plainNode]
  obtain ⟨provider, hbuilt⟩ : ∃ provider, ofInputs .builtins [.schema plainNode] = .ok provider :=
    ⟨_, rfl⟩
  obtain ⟨source, hloaded⟩ := hloads.1 ⟨provider, hbuilt⟩
  exact ⟨hread, provider, source, hbuilt, (htext plainText hread).trans hloaded,
    hsame provider source hbuilt hloaded⟩

end Provider

end LayeredConfig
