import Mathlib.Data.List.AList
import Mathlib.Data.List.Perm.Basic

/-! Go maps with string keys. A `range` over a map visits its entries in some
order that the program does not control. Maps from keys to slices, grown by
`append`, are bags of keyed values. -/

set_option autoImplicit false

namespace Kperf

abbrev StringMap (V : Type) := AList fun _ : String => V

/-- The order in which `range` statements visit their maps. -/
structure RangeOrder where
  visit : {V : Type} → StringMap V → List (Sigma fun _ : String => V)
  perm : ∀ {V : Type} (map : StringMap V), (visit map).Perm map.entries

def RangeOrder.stored : RangeOrder where
  visit := AList.entries
  perm := fun _ => .refl _

namespace StringMap

variable {V : Type}

def copy (order : RangeOrder) (map : StringMap V) : StringMap V :=
  (order.visit map).foldl (fun copied entry => copied.insert entry.1 entry.2) ∅

private theorem foldl_insert_perm {visited : List (Sigma fun _ : String => V)}
    {copied : StringMap V} (distinct : visited.NodupKeys)
    (fresh : ∀ entry ∈ visited, entry.1 ∉ copied) :
    (visited.foldl (fun copied entry => copied.insert entry.1 entry.2) copied).entries.Perm
      (visited ++ copied.entries) := by
  induction visited generalizing copied with
  | nil => exact .refl _
  | cons entry rest ih =>
      obtain ⟨key, value⟩ := entry
      rw [List.nodupKeys_cons] at distinct
      have absent : key ∉ copied := fresh ⟨key, value⟩ List.mem_cons_self
      refine (ih distinct.2 ?_).trans ?_
      · intro entry member
        rw [AList.mem_insert]
        rintro (same | present)
        · exact distinct.1 (same ▸ List.mem_keys_of_mem member)
        · exact fresh entry (List.mem_cons_of_mem _ member) present
      · rw [AList.entries_insert_of_notMem absent]
        exact List.perm_middle

theorem copy_perm (order : RangeOrder) (map : StringMap V) :
    (copy order map).entries.Perm map.entries := by
  have visited := order.perm map
  refine (foldl_insert_perm ?_ ?_).trans ?_
  · exact (List.perm_nodupKeys visited).mpr map.nodupKeys
  · intro entry _
    exact AList.notMem_empty _
  · simpa using visited

/-- The loop over `source` that sets `target[key] = update(target[key], value)`. -/
def rangeUpdate {W : Type} (order : RangeOrder) (update : Option W → V → W)
    (source : StringMap V) (target : StringMap W) : StringMap W :=
  (order.visit source).foldl
    (fun grown entry => grown.insert entry.1 (update (grown.lookup entry.1) entry.2)) target

private theorem lookup_foldl_update {W : Type} {update : Option W → V → W}
    {visited : List (Sigma fun _ : String => V)} {target : StringMap W}
    (distinct : visited.NodupKeys) (key : String) :
    (visited.foldl (fun grown entry =>
        grown.insert entry.1 (update (grown.lookup entry.1) entry.2)) target).lookup key =
      match visited.dlookup key with
      | none => target.lookup key
      | some value => some (update (target.lookup key) value) := by
  induction visited generalizing target with
  | nil => rfl
  | cons entry rest ih =>
      obtain ⟨name, value⟩ := entry
      obtain ⟨absent, distinct⟩ := List.nodupKeys_cons.mp distinct
      rw [List.foldl_cons, ih distinct]
      by_cases same : key = name
      · subst name
        have unseen : rest.dlookup key = none := List.dlookup_eq_none.mpr absent
        simp [unseen]
      · rw [List.dlookup_cons_ne _ _ same, AList.lookup_insert_ne same]

theorem lookup_rangeUpdate {W : Type} (order : RangeOrder) (update : Option W → V → W)
    (source : StringMap V) (target : StringMap W) (key : String) :
    (rangeUpdate order update source target).lookup key =
      match source.lookup key with
      | none => target.lookup key
      | some value => some (update (target.lookup key) value) := by
  have visited := order.perm source
  have distinct := (List.perm_nodupKeys visited).mpr source.nodupKeys
  rw [rangeUpdate, lookup_foldl_update distinct, List.perm_dlookup key distinct visited]
  rfl

theorem mem_rangeUpdate {W : Type} (order : RangeOrder) (update : Option W → V → W)
    (source : StringMap V) (target : StringMap W) (key : String) :
    key ∈ rangeUpdate order update source target ↔ key ∈ target ∨ key ∈ source := by
  rw [← AList.lookup_isSome, ← AList.lookup_isSome, ← AList.lookup_isSome, lookup_rangeUpdate]
  cases source.lookup key with
  | none => simp
  | some value => simp

def mapValues {W : Type} (change : V → W) (map : StringMap V) : StringMap W where
  entries := map.entries.map fun entry => ⟨entry.1, change entry.2⟩
  nodupKeys := by
    rw [List.NodupKeys, List.keys, List.map_map]
    exact map.nodupKeys

theorem lookup_mapValues {W : Type} (change : V → W) (map : StringMap V) (key : String) :
    (mapValues change map).lookup key = (map.lookup key).map change :=
  List.dlookup_map₂ (γ := fun _ => V) (δ := fun _ => W) (f := fun _ => change) key

theorem mem_mapValues {W : Type} (change : V → W) (map : StringMap V) (key : String) :
    key ∈ mapValues change map ↔ key ∈ map := by
  rw [← AList.lookup_isSome, ← AList.lookup_isSome, lookup_mapValues, Option.isSome_map]

section Counter

def number (map : StringMap Int) (key : String) : Int := (map.lookup key).getD 0

theorem lookup_eq_of_number {left right : StringMap Int} {key : String}
    (keys : key ∈ left ↔ key ∈ right) (numbers : number left key = number right key) :
    left.lookup key = right.lookup key := by
  rw [← AList.lookup_isSome, ← AList.lookup_isSome] at keys
  unfold number at numbers
  cases foundLeft : left.lookup key with
  | none =>
      cases foundRight : right.lookup key with
      | none => rfl
      | some value => simp [foundLeft, foundRight] at keys
  | some value =>
      cases foundRight : right.lookup key with
      | none => simp [foundLeft, foundRight] at keys
      | some other => simpa [foundLeft, foundRight] using numbers

end Counter

section Bag

open scoped List

variable {α : Type}

def slice (map : StringMap (List α)) (key : String) : List α := (map.lookup key).getD []

/-- `m[key] = append(m[key], values...)`. -/
def push (key : String) (values : List α) (map : StringMap (List α)) : StringMap (List α) :=
  map.insert key (slice map key ++ values)

def values (map : StringMap (List α)) : List α := map.entries.flatMap Sigma.snd

theorem values_push (map : StringMap (List α)) (key : String) (added : List α) :
    (values (push key added map)).Perm (added ++ values map) := by
  by_cases present : key ∈ map
  · obtain ⟨old, before, after, -, split, erased⟩ := List.exists_of_kerase present
    have found : map.lookup key = some old := by
      rw [← Option.mem_def, AList.mem_lookup_iff, split]
      simp
    have grown : values (push key added map) =
        old ++ added ++ (before.flatMap Sigma.snd ++ after.flatMap Sigma.snd) := by
      simp [values, push, slice, found, erased]
    have stored : values map =
        before.flatMap Sigma.snd ++ (old ++ after.flatMap Sigma.snd) := by
      simp [values, split]
    rw [grown, stored]
    calc old ++ added ++ (before.flatMap Sigma.snd ++ after.flatMap Sigma.snd)
      _ ~ added ++ old ++ (before.flatMap Sigma.snd ++ after.flatMap Sigma.snd) :=
          List.perm_append_comm.append_right _
      _ = added ++ (old ++ (before.flatMap Sigma.snd ++ after.flatMap Sigma.snd)) :=
          List.append_assoc ..
      _ ~ added ++ (before.flatMap Sigma.snd ++ (old ++ after.flatMap Sigma.snd)) :=
          (List.perm_append_comm_assoc ..).append_left _
  · have found : map.lookup key = none := AList.lookup_eq_none.mpr present
    have grown : values (push key added map) = added ++ values map := by
      rw [values, push, AList.entries_insert_of_notMem present]
      simp [values, slice, found]
    rw [grown]

def merge (order : RangeOrder) (source target : StringMap (List α)) : StringMap (List α) :=
  rangeUpdate order (fun old added => old.getD [] ++ added) source target

theorem slice_merge (order : RangeOrder) (source target : StringMap (List α)) (key : String) :
    slice (merge order source target) key = slice target key ++ slice source key := by
  unfold slice
  rw [merge, lookup_rangeUpdate]
  cases source.lookup key with
  | none => simp
  | some added => simp

private theorem values_foldl_push {visited : List (Sigma fun _ : String => List α)}
    {target : StringMap (List α)} :
    values (visited.foldl (fun grown entry => push entry.1 entry.2 grown) target) ~
      values target ++ visited.flatMap Sigma.snd := by
  induction visited generalizing target with
  | nil => simp
  | cons entry rest ih =>
      rw [List.foldl_cons, List.flatMap_cons]
      calc values (rest.foldl (fun grown entry => push entry.1 entry.2 grown)
              (push entry.1 entry.2 target))
        _ ~ values (push entry.1 entry.2 target) ++ rest.flatMap Sigma.snd := ih
        _ ~ (values target ++ entry.2) ++ rest.flatMap Sigma.snd :=
            ((values_push ..).trans List.perm_append_comm).append_right _
        _ = values target ++ (entry.2 ++ rest.flatMap Sigma.snd) := List.append_assoc ..

theorem values_merge (order : RangeOrder) (source target : StringMap (List α)) :
    values (merge order source target) ~ values target ++ values source :=
  values_foldl_push.trans (((order.perm source).flatMap_right _).append_left _)

theorem slice_mapValues_perm {change : List α → List α} (keeps : ∀ slice, change slice ~ slice)
    (map : StringMap (List α)) (key : String) :
    slice (mapValues change map) key ~ slice map key := by
  unfold slice
  rw [lookup_mapValues]
  cases map.lookup key with
  | none => exact .refl _
  | some stored => exact keeps stored

theorem values_mapValues_perm {change : List α → List α} (keeps : ∀ slice, change slice ~ slice)
    (map : StringMap (List α)) : values (mapValues change map) ~ values map := by
  rw [values, mapValues, List.flatMap_map]
  exact List.Perm.flatMap_left _ fun entry _ => keeps entry.2

theorem values_perm {left right : StringMap (List α)}
    (same : left.entries.Perm right.entries) : (values left).Perm (values right) :=
  same.flatMap_right _

end Bag

end StringMap

end Kperf
