import Kperf.Library.ValueTree

/-! Values of a Helm release and `applyValues`, which writes one tree of values
over another. The entries of `from` are kept in the order in which the loops over
it visit them; `to` is only looked up in and written to. A map of `from` that is
put into `to` is shared by both from then on: a later call with the same `from`
writes its entries over themselves. -/

set_option autoImplicit false

namespace Kperf.Helmcli

open ValueTree

variable {Value : Type}

/-- A `map[string]interface{}`. -/
structure Values (Value : Type) where
  entries : Entries String Value
  wellFormed : (ValueTree.map entries).WellFormed

mutual

/-- What `to[k]` holds after the visit of an entry. A map is written into a map,
and replaces anything else; a value that is no map replaces what is there. -/
def applyValue (held : Option (ValueTree String Value)) :
    ValueTree String Value → ValueTree String Value
  | .leaf value => .leaf value
  | .map entries =>
      match held with
      | some (.map inner) => .map (applyEntries inner entries)
      | some (.leaf _) => .map entries
      | none => .map entries

/-- The loop of `applyValues`. -/
def applyEntries (target : Entries String Value) : Entries String Value → Entries String Value
  | [] => target
  | ⟨key, value⟩ :: rest =>
      applyEntries (target.kinsert key (applyValue (target.dlookup key) value)) rest

end

section Entries

variable {target source : Entries String Value}

theorem keys_distinct_applyEntries (distinct : target.NodupKeys) :
    (applyEntries target source).NodupKeys := by
  induction source generalizing target with
  | nil => rwa [applyEntries]
  | cons entry rest ih =>
      rw [applyEntries]
      exact ih (List.kinsert_nodupKeys _ _ distinct)

/-- No key is visited twice, so each one is written from what `to` held at first. -/
theorem dlookup_applyEntries (distinct : source.NodupKeys) (key : String) :
    (applyEntries target source).dlookup key =
      match source.dlookup key with
      | none => target.dlookup key
      | some value => some (applyValue (target.dlookup key) value) := by
  induction source generalizing target with
  | nil => rw [applyEntries, List.dlookup_nil]
  | cons entry rest ih =>
      obtain ⟨name, value⟩ := entry
      obtain ⟨absent, distinct⟩ := List.nodupKeys_cons.mp distinct
      rw [applyEntries, ih distinct]
      by_cases same : key = name
      · subst name
        rw [List.dlookup_eq_none.mpr absent, List.dlookup_cons_eq]
        exact List.dlookup_kinsert target
      · rw [List.dlookup_cons_ne _ _ same, List.dlookup_kinsert_ne same]

theorem applyEntries_children {good : ValueTree String Value → Prop}
    (applied : ∀ entry ∈ source, ∀ held, (∀ tree, held = some tree → good tree) →
      good (applyValue held entry.2))
    (children : ∀ entry ∈ target, good entry.2) :
    ∀ entry ∈ applyEntries target source, good entry.2 := by
  induction source generalizing target with
  | nil => rwa [applyEntries]
  | cons entry rest ih =>
      rw [applyEntries]
      obtain ⟨first, later⟩ := List.forall_mem_cons.mp applied
      refine ih later ?_
      rw [List.kinsert]
      refine List.forall_mem_cons.mpr ⟨first _ fun tree held => ?_, fun other member => ?_⟩
      · exact children ⟨entry.1, tree⟩ (List.of_mem_dlookup held)
      · exact children other (List.Sublist.subset (List.kerase_sublist _ _) member)

theorem mem_keys_applyEntries (distinct : source.NodupKeys) (key : String) :
    key ∈ (applyEntries target source).keys ↔ key ∈ target.keys ∨ key ∈ source.keys := by
  rw [← List.dlookup_isSome, ← List.dlookup_isSome, ← List.dlookup_isSome,
    dlookup_applyEntries distinct]
  cases source.dlookup key with
  | none => simp
  | some value => simp

end Entries

theorem wellFormed_applyValue {tree : ValueTree String Value} (wellFormed : tree.WellFormed)
    {held : Option (ValueTree String Value)} (before : ∀ old, held = some old → old.WellFormed) :
    (applyValue held tree).WellFormed := by
  induction wellFormed generalizing held with
  | leaf =>
      rw [applyValue]
      exact .leaf
  | @map entries distinct children ih =>
      cases held with
      | none =>
          rw [applyValue]
          exact .map distinct children
      | some old =>
          cases before old rfl with
          | leaf =>
              rw [applyValue]
              exact .map distinct children
          | map oldDistinct oldChildren =>
              rw [applyValue]
              exact .map (keys_distinct_applyEntries oldDistinct)
                (applyEntries_children (fun entry member held good => ih entry member good)
                  oldChildren)

/-! What a path leads to after an entry was applied. -/

section Paths

variable {tree visited : ValueTree String Value} {held : Option (ValueTree String Value)}
variable {path : List String}

@[simp] theorem applyValue_none (tree : ValueTree String Value) : applyValue none tree = tree := by
  cases tree <;> rw [applyValue]

/-- What `held` holds at a path. -/
def heldAt (held : Option (ValueTree String Value)) (path : List String) :
    Option (ValueTree String Value) :=
  held.bind fun tree => tree.get path

@[simp] theorem heldAt_nil (held : Option (ValueTree String Value)) : heldAt held [] = held := by
  cases held <;> simp [heldAt]

theorem heldAt_cons (held : Option (ValueTree String Value)) (key : String) (path : List String) :
    heldAt held (key :: path) = heldAt (heldAt held [key]) path := by
  cases held with
  | none => rfl
  | some tree =>
      cases tree with
      | leaf value => rfl
      | map entries => simp [heldAt]

theorem get_applyValue_cons {entries : Entries String Value} (distinct : entries.NodupKeys)
    (key : String) :
    (applyValue held (.map entries)).get (key :: path) =
      match entries.dlookup key with
      | none => heldAt held (key :: path)
      | some value => (applyValue (heldAt held [key]) value).get path := by
  cases held with
  | none =>
      rw [applyValue, get_map_cons]
      cases entries.dlookup key with
      | none => rfl
      | some value => simp [heldAt]
  | some old =>
      cases old with
      | leaf value =>
          rw [applyValue, get_map_cons]
          cases entries.dlookup key with
          | none => rfl
          | some value => simp [heldAt]
      | map inner =>
          rw [applyValue, get_map_cons, dlookup_applyEntries distinct]
          cases entries.dlookup key with
          | none => rfl
          | some value => simp [heldAt]

theorem get_applyValue_leaf (wellFormed : tree.WellFormed) {value : Value}
    (written : tree.get path = some (.leaf value)) :
    (applyValue held tree).get path = some (.leaf value) := by
  induction path generalizing tree held with
  | nil =>
      rw [get_nil] at written
      cases written
      rw [applyValue, get_nil]
  | cons key path ih =>
      cases tree with
      | leaf other => cases written
      | map entries =>
          rw [get_map_cons] at written
          rw [get_applyValue_cons wellFormed.distinct]
          cases found : entries.dlookup key with
          | none => simp [found] at written
          | some child =>
              rw [found, Option.bind_some] at written
              exact ih (wellFormed.child found) written

theorem get_applyValue_map (wellFormed : tree.WellFormed) {entries : Entries String Value}
    (written : tree.get path = some (.map entries)) :
    (applyValue held tree).get path = some (applyValue (heldAt held path) (.map entries)) := by
  induction path generalizing tree held with
  | nil =>
      rw [get_nil] at written
      cases written
      rw [heldAt_nil, get_nil]
  | cons key path ih =>
      cases tree with
      | leaf other => cases written
      | map outer =>
          rw [get_map_cons] at written
          rw [get_applyValue_cons wellFormed.distinct]
          cases found : outer.dlookup key with
          | none => simp [found] at written
          | some child =>
              rw [found, Option.bind_some] at written
              rw [heldAt_cons]
              exact ih (wellFormed.child found) written

def IsMap (held : Option (ValueTree String Value)) : Prop := ∃ entries, held = some (.map entries)

theorem applyValue_of_not_isMap (other : ¬IsMap held) : applyValue held tree = tree := by
  cases tree with
  | leaf value => rw [applyValue]
  | map entries =>
      cases held with
      | none => rw [applyValue]
      | some old =>
          cases old with
          | leaf value => rw [applyValue]
          | map inner => exact absurd ⟨inner, rfl⟩ other

/-- Where `from` holds nothing, `to` is left alone, unless something above was replaced. -/
theorem get_applyValue_none (wellFormed : tree.WellFormed) (nothing : tree.get path = none)
    (above : ∀ front, front <+: path → front ≠ path → (tree.get front).isSome →
      IsMap (tree.get front) ∧ IsMap (heldAt held front)) :
    (applyValue held tree).get path = heldAt held path := by
  induction path generalizing tree held with
  | nil => simp at nothing
  | cons key path ih =>
      obtain ⟨⟨entries, isMap⟩, -⟩ := above [] (List.nil_prefix) (by simp) (by simp)
      rw [get_nil] at isMap
      cases isMap
      rw [get_applyValue_cons wellFormed.distinct]
      cases found : entries.dlookup key with
      | none => rfl
      | some child =>
          rw [get_map_cons, found, Option.bind_some] at nothing
          rw [heldAt_cons]
          refine ih (wellFormed.child found) nothing fun front begins shorter holds => ?_
          have below : (ValueTree.map entries).get (key :: front) = child.get front := by
            rw [get_map_cons, found, Option.bind_some]
          rw [← below] at holds ⊢
          rw [← heldAt_cons]
          refine above (key :: front) (List.cons_prefix_cons.mpr ⟨rfl, begins⟩) ?_ holds
          exact fun equal => shorter (List.cons.inj equal).2

theorem shape_applyValue (held : Option (ValueTree String Value)) (tree : ValueTree String Value) :
    (applyValue held tree).shape = tree.shape := by
  by_cases isMap : IsMap held
  · obtain ⟨inner, rfl⟩ := isMap
    cases tree with
    | leaf value => rw [applyValue]
    | map entries =>
        rw [applyValue]
        rfl
  · rw [applyValue_of_not_isMap isMap]

/-- A second time changes nothing, whatever the order of the visits. -/
theorem applyValue_again (wellFormed : tree.WellFormed) (visitedWellFormed : visited.WellFormed)
    (same : visited.Same tree) :
    (applyValue (some (applyValue held tree)) visited).Same (applyValue held tree) := by
  intro path
  induction path generalizing tree visited held with
  | nil =>
      rw [get_nil, get_nil, Option.map_some, Option.map_some, shape_applyValue, shape_applyValue,
        same.shape_eq]
  | cons key path ih =>
      cases tree with
      | leaf value =>
          cases visited with
          | leaf other => rw [applyValue, applyValue, get_leaf_cons, get_leaf_cons]
          | map others => cases same.shape_eq
      | map entries =>
          cases visited with
          | leaf other => cases same.shape_eq
          | map others =>
              rw [get_applyValue_cons visitedWellFormed.distinct]
              cases same.children key with
              | inl absent => simp only [absent.1, heldAt, Option.bind_some]
              | inr present =>
                  obtain ⟨again, first, visitedHolds, treeHolds, alike⟩ := present
                  have written (rest : List String) :
                      (applyValue held (.map entries)).get (key :: rest) =
                        (applyValue (heldAt held [key]) first).get rest := by
                    rw [get_applyValue_cons wellFormed.distinct, treeHolds]
                  have before : heldAt (some (applyValue held (.map entries))) [key] =
                      some (applyValue (heldAt held [key]) first) := by
                    rw [heldAt, Option.bind_some, written, get_nil]
                  simp only [visitedHolds, written, before]
                  exact ih (wellFormed.child treeHolds) (visitedWellFormed.child visitedHolds)
                    alike

end Paths

namespace Values

def tree (values : Values Value) : ValueTree String Value := .map values.entries

def get (values : Values Value) (path : List String) : Option (ValueTree String Value) :=
  values.tree.get path

/-- The same map, whatever the order in which its loops visit it. -/
def Same (left right : Values Value) : Prop := left.tree.Same right.tree

/-- `applyValues`: `to` as it is when the loop over `from` has ended. -/
def applyValues (target source : Values Value) : Values Value where
  entries := applyEntries target.entries source.entries
  wellFormed := by
    have fits : ∀ old, some target.tree = some old → old.WellFormed := by
      intro old equal
      cases equal
      exact target.wellFormed
    have written := wellFormed_applyValue source.wellFormed fits
    rwa [tree, applyValue] at written

theorem tree_applyValues (target source : Values Value) :
    (target.applyValues source).tree = applyValue (some target.tree) source.tree := by
  rw [tree, tree, tree, applyValue, applyValues]

/-- One tree of values written over another, path by path. -/
structure Overrides (target source result : Values Value) : Prop where
  /-- A value that is no map is found as it was written. -/
  value : ∀ path value, path ≠ [] → source.get path = some (.leaf value) →
    result.get path = some (.leaf value)
  /-- A map that meets no map is found as it was written. -/
  map : ∀ path entries, path ≠ [] → source.get path = some (.map entries) →
    ¬IsMap (target.get path) →
      ∃ written, result.get path = some written ∧ written.Same (.map entries)
  /-- Two maps that meet have their keys together. -/
  union : ∀ path entries inner, path ≠ [] → source.get path = some (.map entries) →
    target.get path = some (.map inner) →
      ∃ both, result.get path = some (.map both) ∧
        ∀ key, key ∈ both.keys ↔ key ∈ inner.keys ∨ key ∈ entries.keys
  /-- What is not written, and not below something that was replaced, is kept. -/
  kept : ∀ path, path ≠ [] → source.get path = none →
    (∀ front, front ≠ [] → front <+: path → front ≠ path → (source.get front).isSome →
      IsMap (source.get front) ∧ IsMap (target.get front)) →
      result.get path = target.get path

section Overrides

variable {target source visited : Values Value} {path : List String}

theorem get_applyValues (target source : Values Value) (path : List String) :
    (target.applyValues source).get path =
      (applyValue (some target.tree) source.tree).get path := by
  rw [get, tree_applyValues]

theorem get_applyValues_value (same : visited.Same source) {value : Value}
    (written : source.get path = some (.leaf value)) :
    (target.applyValues visited).get path = some (.leaf value) := by
  obtain ⟨tree, found, alike⟩ := same.symm.get_eq written
  cases alike.eq_leaf
  rw [get_applyValues]
  exact get_applyValue_leaf visited.wellFormed found

theorem get_applyValues_map (target : Values Value) (same : visited.Same source)
    {entries : Entries String Value} (written : source.get path = some (.map entries)) :
    ∃ others, (ValueTree.map others).WellFormed ∧ (ValueTree.map others).Same (.map entries) ∧
      (target.applyValues visited).get path =
        some (applyValue (target.get path) (.map others)) := by
  obtain ⟨tree, found, alike⟩ := same.symm.get_eq written
  obtain ⟨others, rfl⟩ := alike.eq_map
  refine ⟨others, visited.wellFormed.get found, alike.symm, ?_⟩
  rw [get_applyValues]
  exact get_applyValue_map visited.wellFormed found

theorem get_applyValues_none (same : visited.Same source) (nothing : source.get path = none)
    (above : ∀ front, front ≠ [] → front <+: path → front ≠ path → (source.get front).isSome →
      IsMap (source.get front) ∧ IsMap (target.get front)) :
    (target.applyValues visited).get path = target.get path := by
  rw [get_applyValues]
  refine get_applyValue_none visited.wellFormed (same.symm.get_eq_none nothing)
    fun front begins shorter holds => ?_
  by_cases root : front = []
  · subst front
    exact ⟨⟨visited.entries, get_nil _⟩, ⟨target.entries, heldAt_nil _⟩⟩
  · obtain ⟨tree, found⟩ := Option.isSome_iff_exists.mp holds
    obtain ⟨other, there, alike⟩ := same.get_eq found
    have written : source.get front = some other := there
    obtain ⟨⟨entries, isMap⟩, targetIsMap⟩ :=
      above front root begins shorter (Option.isSome_iff_exists.mpr ⟨other, written⟩)
    rw [written] at isMap
    cases isMap
    obtain ⟨others, rfl⟩ := alike.symm.eq_map
    exact ⟨⟨others, found⟩, targetIsMap⟩

end Overrides

/-- `applyValues` writes `from` over `to` path by path, whatever the order in which
it visits the maps of `from`, and a second time changes nothing. -/
theorem applyValues_overrides (target source visited again : Values Value)
    (order : visited.Same source) (secondOrder : again.Same source) :
    Overrides target source (target.applyValues visited) ∧
      ((target.applyValues visited).applyValues again).Same (target.applyValues visited) := by
  refine ⟨⟨?_, ?_, ?_, ?_⟩, ?_⟩
  · intro path value _ written
    exact get_applyValues_value order written
  · intro path entries _ written other
    obtain ⟨others, -, alike, found⟩ := get_applyValues_map target order written
    rw [applyValue_of_not_isMap other] at found
    exact ⟨_, found, alike⟩
  · intro path entries inner _ written held
    obtain ⟨others, wellFormed, alike, found⟩ := get_applyValues_map target order written
    rw [held, applyValue] at found
    refine ⟨_, found, fun key => ?_⟩
    rw [mem_keys_applyEntries wellFormed.distinct, alike.mem_keys]
  · intro path _ nothing above
    exact get_applyValues_none order nothing above
  · have alike : again.Same visited := fun path => (secondOrder path).trans (order path).symm
    rw [Same, tree_applyValues, tree_applyValues]
    exact applyValue_again visited.wellFormed again.wellFormed alike

end Values

def chartDefaults : Values Nat where
  entries := [⟨"node", .map [⟨"cpu", .leaf 8⟩, ⟨"memory", .leaf 16⟩]⟩, ⟨"zones", .leaf 1⟩]
  wellFormed := .cons (by decide) (.cons (by decide) .leaf (.cons (by decide) .leaf .nil))
    (.cons (by decide) .leaf .nil)

def nodeChanges : Values Nat where
  entries := [⟨"node", .map [⟨"cpu", .leaf 32⟩, ⟨"pods", .leaf 110⟩]⟩,
    ⟨"zones", .map [⟨"east", .leaf 2⟩]⟩]
  wellFormed := .cons (by decide) (.cons (by decide) .leaf (.cons (by decide) .leaf .nil))
    (.cons (by decide) (.cons (by decide) .leaf .nil) .nil)

/-- The same changes, visited from the last one. -/
def nodeChangesReversed : Values Nat where
  entries := nodeChanges.entries.reverse
  wellFormed := .cons (by decide) (.cons (by decide) .leaf .nil)
    (.cons (by decide) (.cons (by decide) .leaf (.cons (by decide) .leaf .nil)) .nil)

theorem nodeChangesReversed_same : nodeChangesReversed.Same nodeChanges :=
  ValueTree.Same.of_perm nodeChangesReversed.wellFormed.distinct (List.reverse_perm _)

theorem applyValues_overrides_reversed :
    Values.Overrides chartDefaults nodeChanges (chartDefaults.applyValues nodeChangesReversed) ∧
      ((chartDefaults.applyValues nodeChangesReversed).applyValues nodeChanges).Same
        (chartDefaults.applyValues nodeChangesReversed) :=
  Values.applyValues_overrides chartDefaults nodeChanges nodeChangesReversed nodeChanges
    nodeChangesReversed_same (ValueTree.Same.refl _)

end Kperf.Helmcli
