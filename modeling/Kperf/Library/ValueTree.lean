import Mathlib.Data.List.AList

/-! Maps whose values are maps again or values of another kind, to any depth. A
map is kept as the list of its entries in the order in which a loop visits them,
so two lists can stand for one map: trees are compared by what they hold at each
path of keys. -/

set_option autoImplicit false

namespace Kperf

inductive ValueTree (Key Value : Type) where
  | leaf (value : Value)
  | map (entries : List (Sigma fun _ : Key => ValueTree Key Value))

namespace ValueTree

variable {Key Value : Type}

abbrev Entries (Key Value : Type) := List (Sigma fun _ : Key => ValueTree Key Value)

/-- No map of the tree has two entries under one key. -/
inductive WellFormed : ValueTree Key Value → Prop where
  | leaf {value : Value} : WellFormed (.leaf value)
  | map {entries : Entries Key Value} : entries.NodupKeys →
      (∀ entry ∈ entries, WellFormed entry.2) → WellFormed (.map entries)

theorem WellFormed.distinct {entries : Entries Key Value}
    (wellFormed : (ValueTree.map entries).WellFormed) :
    entries.NodupKeys := by
  cases wellFormed with
  | map distinct _ => exact distinct

theorem WellFormed.nil : (ValueTree.map ([] : Entries Key Value)).WellFormed :=
  .map List.nodupKeys_nil (List.forall_mem_nil _)

theorem WellFormed.cons {key : Key} {tree : ValueTree Key Value} {rest : Entries Key Value}
    (absent : key ∉ rest.keys) (first : tree.WellFormed)
    (later : (ValueTree.map rest).WellFormed) :
    (ValueTree.map (⟨key, tree⟩ :: rest)).WellFormed := by
  cases later with
  | map distinct children =>
      exact .map (List.nodupKeys_cons.mpr ⟨absent, distinct⟩)
        (List.forall_mem_cons.mpr ⟨first, children⟩)

/-- The kind of a value, without what a map holds. -/
def shape : ValueTree Key Value → Option Value
  | .leaf value => some value
  | .map _ => none

mutual

/-- The tree with every value changed that is no map. -/
def mapLeaves (change : Value → Value) : ValueTree Key Value → ValueTree Key Value
  | .leaf value => .leaf (change value)
  | .map entries => .map (mapEntries change entries)

def mapEntries (change : Value → Value) : Entries Key Value → Entries Key Value
  | [] => []
  | ⟨key, tree⟩ :: rest => ⟨key, mapLeaves change tree⟩ :: mapEntries change rest

end

theorem mapEntries_eq (change : Value → Value) (entries : Entries Key Value) :
    mapEntries change entries = entries.map fun entry => ⟨entry.1, mapLeaves change entry.2⟩ := by
  induction entries with
  | nil => rw [mapEntries, List.map_nil]
  | cons entry rest ih =>
      obtain ⟨key, tree⟩ := entry
      rw [mapEntries, ih, List.map_cons]

theorem keys_mapEntries (change : Value → Value) (entries : Entries Key Value) :
    (mapEntries change entries).keys = entries.keys := by
  rw [mapEntries_eq]
  exact List.map_map

theorem WellFormed.mapLeaves (change : Value → Value) {tree : ValueTree Key Value}
    (wellFormed : tree.WellFormed) : (mapLeaves change tree).WellFormed := by
  induction wellFormed with
  | leaf =>
      rw [ValueTree.mapLeaves]
      exact .leaf
  | @map entries distinct children ih =>
      rw [ValueTree.mapLeaves]
      refine .map ?_ fun entry member => ?_
      · rwa [List.NodupKeys, keys_mapEntries]
      · rw [mapEntries_eq] at member
        obtain ⟨before, inside, rfl⟩ := List.mem_map.mp member
        exact ih before inside

section Paths

variable [DecidableEq Key]

theorem dlookup_mapEntries (change : Value → Value) (entries : Entries Key Value) (key : Key) :
    (mapEntries change entries).dlookup key = (entries.dlookup key).map (mapLeaves change) := by
  induction entries with
  | nil => rw [mapEntries, List.dlookup_nil, Option.map_none]
  | cons entry rest ih =>
      obtain ⟨name, tree⟩ := entry
      rw [mapEntries]
      by_cases same : key = name
      · subst name
        rw [List.dlookup_cons_eq, List.dlookup_cons_eq, Option.map_some]
      · rw [List.dlookup_cons_ne _ _ same, List.dlookup_cons_ne _ _ same, ih]

theorem WellFormed.child {entries : Entries Key Value} {key : Key} {tree : ValueTree Key Value}
    (wellFormed : (ValueTree.map entries).WellFormed) (held : entries.dlookup key = some tree) :
    tree.WellFormed := by
  cases wellFormed with
  | map _ children => exact children ⟨key, tree⟩ (List.of_mem_dlookup held)

def get : ValueTree Key Value → List Key → Option (ValueTree Key Value)
  | tree, [] => some tree
  | .leaf _, _ :: _ => none
  | .map entries, key :: path => (entries.dlookup key).bind fun tree => tree.get path

@[simp] theorem get_nil (tree : ValueTree Key Value) : tree.get [] = some tree := by
  cases tree <;> rfl

@[simp] theorem get_leaf_cons (value : Value) (key : Key) (path : List Key) :
    (leaf value : ValueTree Key Value).get (key :: path) = none := rfl

@[simp] theorem get_map_cons (entries : Entries Key Value) (key : Key) (path : List Key) :
    (map entries).get (key :: path) = (entries.dlookup key).bind fun tree => tree.get path := rfl

theorem get_mapLeaves (change : Value → Value) (tree : ValueTree Key Value) (path : List Key) :
    (mapLeaves change tree).get path = (tree.get path).map (mapLeaves change) := by
  induction path generalizing tree with
  | nil => rw [get_nil, get_nil, Option.map_some]
  | cons key path ih =>
      cases tree with
      | leaf value => rw [mapLeaves, get_leaf_cons, get_leaf_cons, Option.map_none]
      | map entries =>
          rw [mapLeaves, get_map_cons, get_map_cons, dlookup_mapEntries]
          cases entries.dlookup key with
          | none => rfl
          | some inner => exact ih inner

theorem WellFormed.get {tree child : ValueTree Key Value} {path : List Key}
    (wellFormed : tree.WellFormed) (held : tree.get path = some child) : child.WellFormed := by
  induction path generalizing tree with
  | nil =>
      rw [get_nil] at held
      cases held
      exact wellFormed
  | cons key path ih =>
      cases tree with
      | leaf value => cases held
      | map entries =>
          obtain ⟨inner, found, below⟩ := Option.bind_eq_some_iff.mp held
          exact ih (wellFormed.child found) below

/-- The two trees hold the same at every path, the order of entries aside. -/
def Same (left right : ValueTree Key Value) : Prop :=
  ∀ path, (left.get path).map shape = (right.get path).map shape

theorem Same.refl (tree : ValueTree Key Value) : tree.Same tree := fun _ => rfl

theorem Same.shape_eq {left right : ValueTree Key Value} (same : left.Same right) :
    left.shape = right.shape := by
  have root := same []
  rw [get_nil, get_nil] at root
  exact Option.some.inj root

/-- The same map has nothing under a key in one order and in another, or the same. -/
theorem Same.children {left right : Entries Key Value} (same : (map left).Same (map right))
    (key : Key) :
    (left.dlookup key = none ∧ right.dlookup key = none) ∨
      ∃ first second, left.dlookup key = some first ∧ right.dlookup key = some second ∧
        first.Same second := by
  have below := fun path => same (key :: path)
  simp only [get_map_cons] at below
  cases first : left.dlookup key with
  | none =>
      cases second : right.dlookup key with
      | none => exact .inl ⟨rfl, rfl⟩
      | some tree => simpa [first, second] using below []
  | some tree =>
      cases second : right.dlookup key with
      | none => simpa [first, second] using below []
      | some other =>
          simp only [first, second, Option.bind_some] at below
          exact .inr ⟨tree, other, rfl, rfl, below⟩

theorem Same.get_eq {left right tree : ValueTree Key Value} {path : List Key}
    (same : left.Same right) (held : left.get path = some tree) :
    ∃ other, right.get path = some other ∧ tree.Same other := by
  induction path generalizing left right with
  | nil =>
      rw [get_nil] at held
      cases held
      exact ⟨right, get_nil right, same⟩
  | cons key path ih =>
      cases left with
      | leaf value => cases held
      | map entries =>
          cases right with
          | leaf value => cases same.shape_eq
          | map others =>
              cases same.children key with
              | inl absent => simp [absent.1] at held
              | inr present =>
                  obtain ⟨first, second, here, there, alike⟩ := present
                  rw [get_map_cons, here, Option.bind_some] at held
                  rw [get_map_cons, there, Option.bind_some]
                  exact ih alike held

theorem Same.symm {left right : ValueTree Key Value} (same : left.Same right) :
    right.Same left :=
  fun path => (same path).symm

theorem Same.get_eq_none {left right : ValueTree Key Value} {path : List Key}
    (same : left.Same right) (nothing : left.get path = none) : right.get path = none := by
  have held := same path
  rw [nothing, Option.map_none] at held
  exact Option.map_eq_none_iff.mp held.symm

theorem Same.eq_leaf {tree : ValueTree Key Value} {value : Value} (same : (leaf value).Same tree) :
    tree = leaf value := by
  cases tree with
  | leaf other =>
      cases same.shape_eq
      rfl
  | map entries => cases same.shape_eq

theorem Same.eq_map {tree : ValueTree Key Value} {entries : Entries Key Value}
    (same : (map entries).Same tree) : ∃ others, tree = map others := by
  cases tree with
  | leaf other => cases same.shape_eq
  | map others => exact ⟨others, rfl⟩

theorem Same.mem_keys {left right : Entries Key Value} (same : (map left).Same (map right))
    (key : Key) : key ∈ left.keys ↔ key ∈ right.keys := by
  rw [← List.dlookup_isSome, ← List.dlookup_isSome]
  cases same.children key with
  | inl absent => rw [absent.1, absent.2]
  | inr present =>
      obtain ⟨first, second, here, there, -⟩ := present
      rw [here, there, Option.isSome_some, Option.isSome_some]

theorem Same.of_perm {left right : Entries Key Value} (distinct : left.NodupKeys)
    (visited : left.Perm right) : (map left).Same (map right) := by
  intro path
  cases path with
  | nil => rfl
  | cons key path => rw [get_map_cons, get_map_cons, List.perm_dlookup key distinct visited]

end Paths

end ValueTree

end Kperf
