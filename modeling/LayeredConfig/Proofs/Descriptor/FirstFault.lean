import LayeredConfig.Proofs.Descriptor.Conversion

/-!
# The first fault

A conversion goes through the parts of a value in the order of the declared keys and of the places in a
sequence (`Descriptor.Precedes`), and stops at the first part that it cannot accept. So an error blames a
part (`Descriptor.Blames`), and everything before that part is in order (`Descriptor.ClearBefore`); both
are found level by level, from a lemma that says which item or which key a failing level stops at.

The message of an error has the location of that part written out (`Step.written`): keys with dots between
them, places in brackets. This takes keys that have names, since a location whose text is empty is taken
for the whole value.
-/

namespace LayeredConfig

/-! ## Locations as texts -/

namespace Step

/-- What a step adds to the text of a location. -/
def suffix : Step → String
  | key name => "." ++ name
  | index place => "[" ++ toString place ++ "]"

/-- A location as a text: keys with dots between them, each place in brackets after what holds it. -/
def written : List Step → String
  | key name :: steps => name ++ String.join (steps.map suffix)
  | steps => String.join (steps.map suffix)

/-- Every key on the way has a name. -/
def Named (location : List Step) : Prop := ∀ name, key name ∈ location → name ≠ ""

/-- After a text that is not empty, every key is set off with a dot. -/
theorem renderAfter_eq {before : String} (h : before ≠ "") (steps : List Step) :
    renderAfter before steps = before ++ String.join (steps.map suffix) := by
  induction steps generalizing before with
  | nil => simp [renderAfter]
  | cons step steps ih =>
    have hnext (more : String) : before ++ more ≠ "" := by simp [String.append_eq_empty_iff, h]
    cases step with
    | key name =>
      simp [renderAfter, h, ih (hnext _), suffix, String.append_assoc]
    | index place =>
      simp [renderAfter, ih (hnext _), suffix, String.append_assoc]

/-- Where every key has a name, a location is rendered as it is written. -/
theorem render_eq_written {location : List Step} (h : Named location) :
    render location = written location := by
  cases location with
  | nil => simp [render, renderAfter, written]
  | cons step steps =>
    cases step with
    | key name =>
      have hname : name ≠ "" := h name List.mem_cons_self
      simp [render, renderAfter, renderAfter_eq hname, written]
    | index place =>
      simp [render, renderAfter, renderAfter_eq, written, suffix]

/-- Only the location of the whole value has no text. -/
theorem written_eq_empty_iff {location : List Step} (h : Named location) :
    written location = "" ↔ location = [] := by
  cases location with
  | nil => simp [written]
  | cons step steps =>
    cases step with
    | key name =>
      have hname : name ≠ "" := h name List.mem_cons_self
      simp [written, String.append_eq_empty_iff, hname]
    | index place => simp [written, suffix, String.append_eq_empty_iff]

end Step

namespace ValidationError

/-- The message of a refused value has its location, or says that it is the whole value. -/
theorem message_invalid {location : List Step} (h : Step.Named location) (expected found : String) :
    (invalid location expected found).message =
      "'" ++ (if location = [] then "(root)" else Step.written location) ++ "' should be " ++ expected ++
        ", got " ++ found := by
  have hplace : (if (Step.render location).isEmpty then "(root)" else Step.render location) =
      if location = [] then "(root)" else Step.written location := by
    rw [Step.render_eq_written h]
    by_cases hwhole : location = []
    · simp [hwhole, Step.written]
    · simp [hwhole, Step.written_eq_empty_iff h]
  rw [← hplace]
  rfl

theorem message_missingKey {location : List Step} (h : Step.Named location) :
    (missingKey location).message = "missing required key '" ++ Step.written location ++ "'" := by
  rw [← Step.render_eq_written h]
  rfl

end ValidationError

namespace Descriptor

/-! ## What comes first -/

/-- The order in which a conversion comes to the parts of a value: items by their places, and keys as they
are declared. -/
inductive Precedes : Descriptor → List Step → List Step → Prop where
  | place {item i j s t} : i < j → Precedes (.list item) (.index i :: s) (.index j :: t)
  | item {item i s t} : Precedes item s t → Precedes (.list item) (.index i :: s) (.index i :: t)
  | declared {keys unknown name other s t} : List.Sublist [name, other] (names keys) →
      Precedes (.dict keys unknown) (.key name :: s) (.key other :: t)
  | key {keys unknown name d presence s t} : (name, d, presence) ∈ keys → Precedes d s t →
      Precedes (.dict keys unknown) (.key name :: s) (.key name :: t)

/-- Everything that comes before a location is in order: what is there can be converted, and what must be
there is there. -/
structure ClearBefore (d : Descriptor) (v : Value) (location : List Step) : Prop where
  converted : ∀ earlier e x, Reaches earlier d v e x → Precedes d earlier location →
    ∃ w, e.convert x = .ok w
  present : ∀ parent keys unknown entries name e,
    Reaches parent d v (.dict keys unknown) (.map entries) → (name, e, .required) ∈ keys →
    Precedes d (parent ++ [.key name]) location → ∃ x, Entries.get? name entries = some x

/-- An error blames a location for what stands there, or for a key that is absent there. -/
inductive Blames (d : Descriptor) (v : Value) : List Step → ValidationError → Prop where
  | invalid {location e x} : Reaches location d v e x → e.goesOn x = false → e.scalar? x = none →
      Blames d v location (.invalid location e.expected x.kind)
  | missing (parent) {keys unknown entries name e} :
      Reaches parent d v (.dict keys unknown) (.map entries) → (name, e, .required) ∈ keys →
      Entries.get? name entries = none →
      Blames d v (parent ++ [.key name]) (.missingKey (parent ++ [.key name]))

variable {d : Descriptor} {v : Value} {location : List Step} {error : ValidationError}
  {items : List Value} {keys : List (String × Descriptor × Presence)} {unknown : Option KeyMapper}
  {entries : Entries Value} {name : String} {presence : Presence}

/-- Nothing comes before the whole value. -/
theorem not_precedes_nil {earlier : List Step} : ¬ Precedes d earlier [] := nofun

/-- Nothing comes after the whole value in the order of its parts. -/
theorem not_nil_precedes : ¬ Precedes d [] location := nofun

theorem clearBefore_nil : ClearBefore d v [] where
  converted _ _ _ _ hbefore := (not_precedes_nil hbefore).elim
  present _ _ _ _ _ _ _ _ hbefore := (not_precedes_nil hbefore).elim

/-! ## One level -/

/-- Items fail at the first one that cannot be converted. -/
theorem exists_of_convertItems_error {convert : Value → Except ValidationError Value} {place : Nat}
    (h : convertItems convert place items = .error error) :
    ∃ i v e, items[i]? = some v ∧ convert v = .error e ∧ error = e.below (.index (place + i)) ∧
      ∀ j u, j < i → items[j]? = some u → ∃ w, convert u = .ok w := by
  induction items generalizing place with
  | nil => cases h
  | cons v items ih =>
    simp only [convertItems] at h
    cases hv : convert v with
    | error e =>
      simp only [hv, Except.error.injEq] at h
      exact ⟨0, v, e, rfl, hv, h.symm, fun j _ hj => absurd hj j.not_lt_zero⟩
    | ok w =>
      cases hrest : convertItems convert (place + 1) items with
      | ok ws => simp [hv, hrest] at h
      | error e =>
        simp only [hv, hrest, Except.error.injEq] at h
        subst h
        -- the first item converts, so all places are one further on
        obtain ⟨i, u, e, hu, hconvert, he, hearlier⟩ := ih hrest
        refine ⟨i + 1, u, e, hu, hconvert, ?_, fun j x hj hx => ?_⟩
        · rw [he, Nat.add_right_comm, Nat.add_assoc]
        · cases j with
          | zero =>
            cases hx
            exact ⟨w, hv⟩
          | succ j => exact hearlier j x (Nat.lt_of_succ_lt_succ hj) hx

/-- The keys of a dict fail at the first one that does not settle. -/
theorem exists_of_convertKeys_error (hkeys : (names keys).Nodup) {result : Entries Value}
    (h : convertKeys keys entries result = .error error) :
    ∃ name d presence, (name, d, presence) ∈ keys ∧
      settle name d presence (Entries.get? name entries) = .error error ∧
      ∀ other d' presence', (other, d', presence') ∈ keys →
        List.Sublist [other, name] (names keys) →
        ∃ found, settle other d' presence' (Entries.get? other entries) = .ok found := by
  induction keys generalizing entries result with
  | nil => cases h
  | cons key keys ih =>
    obtain ⟨first, d, presence⟩ := key
    obtain ⟨hfirst, hkeys⟩ : first ∉ names keys ∧ (names keys).Nodup := List.nodup_cons.1 hkeys
    have hbefore {other name : String} (hsub : List.Sublist [other, name] (first :: names keys)) :
        name ∈ names keys ∧ (other = first ∨ List.Sublist [other, name] (names keys)) := by
      cases hsub with
      | cons _ hsub => exact ⟨hsub.subset (by simp), .inr hsub⟩
      | cons_cons _ hsub => exact ⟨List.singleton_sublist.1 hsub, .inl rfl⟩
    rw [convertKeys_cons] at h
    cases hsettle : settle first d presence (Entries.get? first entries) with
    | error e =>
      simp only [hsettle, Except.error.injEq] at h
      exact ⟨first, d, presence, List.mem_cons_self, h ▸ hsettle,
        fun other _ _ _ hsub => absurd (hbefore hsub).1 hfirst⟩
    | ok found =>
      simp only [hsettle] at h
      have hget {other : String} (hother : other ∈ names keys) :
          Entries.get? other (Entries.erase first entries) = Entries.get? other entries :=
        get?_erase_of_mem_names hfirst hother entries
      obtain ⟨name, d', presence', hmem, herror, hearlier⟩ := ih hkeys h
      refine ⟨name, d', presence', List.mem_cons_of_mem _ hmem, hget (mem_names hmem) ▸ herror, ?_⟩
      intro other e presence'' hother hsub
      rcases List.mem_cons.1 hother with heq | hother
      · cases heq
        exact ⟨found, hsettle⟩
      · have hne : other ≠ first := fun heq => hfirst (heq ▸ mem_names hother)
        have hsub := (hbefore hsub).2.resolve_left hne
        rw [← hget (mem_names hother)]
        exact hearlier other e presence'' hother hsub

/-- A key that is there fails with the error of its value, placed under the key. -/
theorem settle_some_eq_error_iff :
    settle name d presence (some v) = .error error ↔
      ∃ e, d.convert v = .error e ∧ error = e.below (.key name) := by
  simp only [settle]
  cases d.convert v <;> simp [eq_comm]

/-- A key that is not there fails only if it is required, and names itself. -/
theorem settle_none_eq_error_iff :
    settle name d presence none = .error error ↔
      presence = .required ∧ error = .missingKey [.key name] := by
  cases presence <;> simp [settle, eq_comm]

/-- A key that must be there settles only if it is. -/
theorem exists_get?_of_settle {held found : Option Value}
    (h : settle name d .required held = .ok found) : ∃ x, held = some x := by
  cases held with
  | some x => exact ⟨x, rfl⟩
  | none => exact (settle_none_eq_ok_iff.1 h).elim

/-! ## From one level to the next -/

/-- What a map must have is there if the map can be converted. -/
theorem exists_get?_of_convert (hkeys : (names keys).Nodup)
    (hconvert : ∃ w, (dict keys unknown).convert (.map entries) = .ok w)
    (hmem : (name, d, .required) ∈ keys) : ∃ x, Entries.get? name entries = some x := by
  obtain ⟨found, hfound⟩ := (exists_convert_dict_iff hkeys).1 hconvert _ _ _ hmem
  exact exists_get?_of_settle hfound

/-- What is to blame in an item is to blame in the list, one step down. -/
theorem Blames.item {item : Descriptor} {i : Nat} (hi : items[i]? = some v)
    (h : Blames item v location error) :
    Blames (list item) (.array items) (.index i :: location) (error.below (.index i)) := by
  cases h with
  | invalid hreaches hleaf hscalar => exact .invalid (.item hi hreaches) hleaf hscalar
  | missing _ hreaches hmem hnone => exact .missing (_ :: _) (.item hi hreaches) hmem hnone

theorem Blames.key (hmem : (name, d, presence) ∈ keys) (hget : Entries.get? name entries = some v)
    (h : Blames d v location error) : Blames (dict keys unknown) (.map entries)
      (.key name :: location) (error.below (.key name)) := by
  cases h with
  | invalid hreaches hleaf hscalar => exact .invalid (.key hmem hget hreaches) hleaf hscalar
  | missing _ hreaches hmem' hnone =>
    exact .missing (_ :: _) (.key hmem hget hreaches) hmem' hnone

/-- All is clear before a location in a list if the earlier items convert and all is clear before it in its
own item. -/
theorem ClearBefore.item {item : Descriptor} (hd : item.Distinct) {i : Nat} (hi : items[i]? = some v)
    (hearlier : ∀ j u, j < i → items[j]? = some u → ∃ w, item.convert u = .ok w)
    (h : ClearBefore item v location) :
    ClearBefore (list item) (.array items) (.index i :: location) where
  converted earlier e x hreaches hbefore := by
    cases hreaches with
    | here => cases hbefore
    | item hj hreaches =>
      cases hbefore with
      | place hlt => exact hreaches.exists_convert hd (hearlier _ _ hlt hj)
      | item hbefore =>
        cases hi.symm.trans hj
        exact h.converted _ e x hreaches hbefore
  present parent keys unknown entries name e hreaches hmem hbefore := by
    cases hreaches with
    | item hj hreaches =>
      cases hbefore with
      | place hlt =>
        exact exists_get?_of_convert (hreaches.everyDict hd).head
          (hreaches.exists_convert hd (hearlier _ _ hlt hj)) hmem
      | item hbefore =>
        cases hi.symm.trans hj
        exact h.present _ keys unknown entries name e hreaches hmem hbefore

/-- Two declarations of the same name are one. -/
theorem eq_of_mem_of_mem (hkeys : (names keys).Nodup) {e : Descriptor} {presence' : Presence}
    (h : (name, d, presence) ∈ keys) (h' : (name, e, presence') ∈ keys) :
    d = e ∧ presence = presence' := by
  have heq := List.inj_on_of_nodup_map hkeys h h' rfl
  simpa using heq

/-- All is clear before a location in a map if the keys declared earlier settle and all is clear before it
in the value of its own key. -/
theorem ClearBefore.key (hd : (dict keys unknown).Distinct)
    (hearlier : ∀ other e presence, (other, e, presence) ∈ keys →
      List.Sublist [other, name] (names keys) →
      ∃ found, settle other e presence (Entries.get? other entries) = .ok found)
    (h : ∀ d presence v, (name, d, presence) ∈ keys → Entries.get? name entries = some v →
      ClearBefore d v location) :
    ClearBefore (dict keys unknown) (.map entries) (.key name :: location) where
  converted earlier e x hreaches hbefore := by
    cases hreaches with
    | here => cases hbefore
    | key hmem hget hreaches =>
      cases hbefore with
      | declared hsub =>
        -- the part is below a key declared earlier, which settles and so converts with all below it
        have hconvert := exists_convert_of_settle (hget ▸ hearlier _ _ _ hmem hsub)
        exact hreaches.exists_convert (hd.key hmem) hconvert
      | key hmem' hbefore =>
        -- the part is below the same key
        obtain ⟨rfl, rfl⟩ := eq_of_mem_of_mem hd.head hmem hmem'
        exact (h _ _ _ hmem hget).converted _ e x hreaches hbefore
  present parent keys' unknown' entries' name' e hreaches hrequired hbefore := by
    cases hreaches with
    | here =>
      cases hbefore with
      | declared hsub =>
        obtain ⟨found, hfound⟩ := hearlier _ _ _ hrequired hsub
        exact exists_get?_of_settle hfound
      | key _ hbefore => exact (not_nil_precedes hbefore).elim
    | key hmem hget hreaches =>
      cases hbefore with
      | declared hsub =>
        have hconvert := exists_convert_of_settle (hget ▸ hearlier _ _ _ hmem hsub)
        exact exists_get?_of_convert (hreaches.everyDict (hd.key hmem)).head
          (hreaches.exists_convert (hd.key hmem) hconvert) hrequired
      | key hmem' hbefore =>
        obtain ⟨rfl, rfl⟩ := eq_of_mem_of_mem hd.head hmem hmem'
        exact (h _ _ _ hmem hget).present _ keys' unknown' entries' name' e hreaches hrequired hbefore

/-- **Why a conversion fails**: something is at fault, and everything before it is in order. -/
theorem exists_blames (hd : d.Distinct) (h : d.convert v = .error error) :
    ∃ location, Blames d v location error ∧ ClearBefore d v location := by
  induction d, v using descent generalizing error with
  | leaf d v hleaf =>
    rw [convert_of_leaf hleaf, convertScalar] at h
    cases hscalar : d.scalar? v with
    | some w => simp [hscalar] at h
    | none =>
      simp only [hscalar, Except.error.injEq] at h
      subst h
      exact ⟨[], .invalid .here hleaf hscalar, clearBefore_nil⟩
  | list item items ih =>
    cases hitems : convertItems item.convert 0 items with
    | ok ws => simp [convert, hitems] at h
    | error e =>
      simp only [convert, hitems, Except.error.injEq] at h
      subst h
      obtain ⟨i, v, e, hi, hconvert, rfl, hearlier⟩ := exists_of_convertItems_error hitems
      obtain ⟨location, hblames, hclear⟩ := ih v (List.mem_of_getElem? hi) hd.item hconvert
      rw [Nat.zero_add]
      exact ⟨.index i :: location, hblames.item hi, hclear.item hd.item hi hearlier⟩
  | dict keys unknown entries ih =>
    cases hkeys : convertKeys keys entries [] with
    | ok pair => simp [convert, hkeys] at h
    | error e =>
      simp only [convert, hkeys, Except.error.injEq] at h
      subst h
      obtain ⟨name, d, presence, hmem, hsettle, hearlier⟩ := exists_of_convertKeys_error hd.head hkeys
      cases hget : Entries.get? name entries with
      | some v =>
        -- the fault is below the key
        rw [hget, settle_some_eq_error_iff] at hsettle
        obtain ⟨e, hconvert, rfl⟩ := hsettle
        obtain ⟨location, hblames, hclear⟩ := ih name d presence v hmem hget (hd.key hmem) hconvert
        refine ⟨.key name :: location, hblames.key hmem hget, .key hd hearlier fun d' _ _ hmem' hget' => ?_⟩
        cases hget.symm.trans hget'
        obtain ⟨rfl, rfl⟩ := eq_of_mem_of_mem hd.head hmem hmem'
        exact hclear
      | none =>
        rw [hget, settle_none_eq_error_iff] at hsettle
        obtain ⟨rfl, rfl⟩ := hsettle
        refine ⟨[.key name], .missing [] .here hmem hget, .key hd hearlier fun _ _ _ _ hget' => ?_⟩
        cases hget.symm.trans hget'

/-- The keys on the way to a part have names, if all keys have. -/
theorem Reaches.named {e : Descriptor} {x : Value} (h : Reaches location d v e x)
    (hd : d.EveryDict fun keys _ => "" ∉ names keys) : Step.Named location := by
  induction h with
  | here => exact fun name hname => nomatch hname
  | item _ _ ih =>
    intro name hname
    exact ih hd.item name ((List.mem_cons.1 hname).resolve_left nofun)
  | key hmem _ _ ih =>
    intro name hname
    rcases List.mem_cons.1 hname with heq | hname
    · cases heq
      exact fun h => hd.head (h ▸ mem_names hmem)
    · exact ih (hd.key hmem) name hname

/-- **An error names the first fault.** If the keys of each dict have names and all different ones, the
error of a conversion is about a location before which everything is in order. Either there is a value,
which has no conversion, and the error tells its kind and what the descriptor that it meets asks for; or
there is a map without a key that it must have. The message writes out the location. -/
theorem convert_error_first (hd : d.Distinct) (hnamed : d.EveryDict fun keys _ => "" ∉ names keys)
    (h : d.convert v = .error error) :
    ∃ location, ClearBefore d v location ∧
      ((∃ e x, Reaches location d v e x ∧ e.goesOn x = false ∧ e.scalar? x = none ∧
          error = .invalid location e.expected x.kind ∧
          error.message = "'" ++ (if location = [] then "(root)" else Step.written location) ++
            "' should be " ++ e.expected ++ ", got " ++ x.kind) ∨
        ∃ parent name keys unknown entries e, location = parent ++ [.key name] ∧
          Reaches parent d v (dict keys unknown) (.map entries) ∧
          (name, e, .required) ∈ keys ∧ Entries.get? name entries = none ∧
          error = .missingKey location ∧
          error.message = "missing required key '" ++ Step.written location ++ "'") := by
  obtain ⟨location, hblames, hclear⟩ := exists_blames hd h
  refine ⟨location, hclear, ?_⟩
  cases hblames with
  | @invalid location e x hreaches hleaf hscalar =>
    have hlocation := hreaches.named hnamed
    exact .inl ⟨e, x, hreaches, hleaf, hscalar, rfl,
      ValidationError.message_invalid hlocation e.expected x.kind⟩
  | @missing parent keys unknown entries name e hreaches hmem hnone =>
    -- the missing key is one of those declared, which have names
    have hname : name ≠ "" := by
      rintro rfl
      exact (hreaches.everyDict hnamed).head (mem_names hmem)
    have hlocation : Step.Named (parent ++ [.key name]) := by
      intro other hother
      rcases List.mem_append.1 hother with hother | hother
      · exact hreaches.named hnamed other hother
      · cases List.mem_singleton.1 hother
        exact hname
    exact .inr ⟨parent, name, keys, unknown, entries, e, rfl, hreaches, hmem, hnone, rfl,
      ValidationError.message_missingKey hlocation⟩

/-- Some servers with their ports, and an owner. -/
def cluster : Descriptor :=
  dict [("servers", list (dict [("name", string, .optional), ("port", integer, .required)] none),
    .required), ("owner", string, .required)] none

/-- The second server has no number for its port, the third has no port, and there is no owner. -/
def brokenCluster : Value :=
  .map [("servers", .array [.map [("port", .string "80")],
    .map [("name", .bool true), ("port", .string "eighty")], .map []])]

/-- Of the three faults, the port that is no number comes first. -/
theorem convert_error_first_cluster :
    ∃ error, cluster.convert brokenCluster = .error error ∧
      error.message = "'servers[1].port' should be an integer, got string" ∧
      ClearBefore cluster brokenCluster [.key "servers", .index 1, .key "port"] := by
  have hdistinct : cluster.Distinct := by simp [cluster, Distinct, names]
  have hnamed : cluster.EveryDict fun keys _ => "" ∉ names keys := by simp [cluster, names]
  have herror : cluster.convert brokenCluster =
      .error (.invalid [.key "servers", .index 1, .key "port"] "an integer" "string") := by
    rfl
  obtain ⟨location, hclear, ⟨e, x, -, -, -, heq, hmessage⟩ | ⟨_, _, _, _, _, _, -, -, -, -, heq, -⟩⟩ :=
    convert_error_first hdistinct hnamed herror
  · obtain ⟨rfl, hexpected, hkind⟩ := ValidationError.invalid.inj heq
    rw [← hexpected, ← hkind] at hmessage
    exact ⟨_, herror, hmessage, hclear⟩
  · cases heq

end Descriptor

end LayeredConfig
