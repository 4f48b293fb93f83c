import Kperf.Contrib.Configmaps
import Kperf.Library.Text
import Mathlib.Data.Bool.AllAny

/-! Listing a set of config maps after adding it. The size of the groups is not
stored: the listing takes the first positive owner it meets for it. -/

set_option autoImplicit false

namespace Kperf.Contrib.Configmaps

open Outcome
open scoped List

theorem checkConfigmapParams_eq_ok {size groupSize total : Int} :
    checkConfigmapParams size groupSize total = .ok () ↔
      0 < size ∧ 0 < groupSize ∧ 0 < total ∧ groupSize ≤ total := by
  simp only [checkConfigmapParams, guard_eq_ok, and_true]
  omega

theorem mem_indices {first stop j : Int} : j ∈ indices first stop ↔ first ≤ j ∧ j < stop := by
  simp only [indices, List.mem_map, List.mem_range]
  constructor
  · rintro ⟨offset, inside, rfl⟩
    omega
  · rintro ⟨low, high⟩
    exact ⟨(j - first).toNat, by omega, by omega⟩

theorem indices_append {first middle stop : Int} (low : first ≤ middle) (high : middle ≤ stop) :
    indices first stop = indices first middle ++ indices middle stop := by
  have split : (stop - first).toNat = (middle - first).toNat + (stop - middle).toNat := by omega
  rw [indices, split, List.range_add, List.map_append, List.map_map]
  refine congrArg (indices first middle ++ ·) (List.map_congr_left fun offset _ => ?_)
  simp only [Function.comp_apply]
  omega

@[simp] theorem length_indices (first stop : Int) :
    (indices first stop).length = (stop - first).toNat := by
  simp [indices]

/-! What a creation that succeeds leaves behind. -/

section Create

variable {server : Server} {cmName : String} {size ownerID j : Int} {stored grown : List ConfigMap}

theorem utf8Size_letterRunes : ∀ letter ∈ letterRunes, letter.utf8Size = 1 :=
  List.all_iff_forall_prop.mp (by decide)

theorem randString_size {random : Nat → Except String (Fin letterRunes.length)} {text : String}
    (ran : randString random size = .ok text) : (text.utf8ByteSize : Int) = size := by
  obtain ⟨positive, ran⟩ := guard_eq_ok.mp ran
  obtain ⟨letters, drawn, returned⟩ := bind_eq_ok.mp ran
  cases returned
  obtain ⟨lengths, sources⟩ := mapM_ok drawn
  have single : ∀ letter ∈ letters, letter.utf8Size = 1 := by
    intro letter member
    obtain ⟨position, source⟩ := sources letter member
    split at source
    · cases source
      exact utf8Size_letterRunes _ (List.get_mem _ _)
    · cases source
  rw [Text.utf8ByteSize_ofList single, lengths, List.length_range]
  omega

theorem createConfigmap_ok
    (ran : createConfigmap server cmName size ownerID j stored = .ok grown) :
    ∃ data, randString (server.random j) size = .ok data ∧
      configmapName cmName j ∉ stored.map ConfigMap.name ∧
      grown = stored ++ [newConfigmap cmName ownerID j data] := by
  obtain ⟨data, drawn, created⟩ := bind_eq_ok.mp ran
  refine ⟨data, wrap_eq_ok.mp drawn, ?_⟩
  have answered := wrap_eq_ok.mp created
  split at answered
  · cases answered
  · obtain ⟨absent, answered⟩ := guard_eq_ok.mp answered
    cases answered
    exact ⟨absent, rfl⟩

def Server.data (server : Server) (size j : Int) : String :=
  match randString (server.random j) size with
  | .ok data => data
  | .error _ => ""

theorem createGroup_ok {order : List Int}
    (ran : createGroup server cmName size ownerID order stored = (grown, .ok ())) :
    grown = stored ++ order.map (fun j => newConfigmap cmName ownerID j (server.data size j)) ∧
      ∀ j ∈ order, configmapName cmName j ∉ stored.map ConfigMap.name ∧
        ((server.data size j).utf8ByteSize : Int) = size := by
  induction order generalizing stored with
  | nil =>
      cases ran
      exact ⟨by simp, by nofun⟩
  | cons j rest ih =>
      rw [createGroup] at ran
      split at ran
      · rename_i more created
        obtain ⟨data, drawn, absent, rfl⟩ := createConfigmap_ok created
        have own : server.data size j = data := by rw [Server.data, drawn]
        obtain ⟨rfl, others⟩ := ih ran
        refine ⟨by simp [own], List.forall_mem_cons.mpr ⟨⟨absent, ?_⟩, fun other member => ?_⟩⟩
        · rw [own]
          exact randString_size drawn
        · obtain ⟨fresh, sized⟩ := others other member
          refine ⟨fun present => fresh ?_, sized⟩
          rw [List.map_append]
          exact List.mem_append_left _ present
      · cases ran

end Create

/-! The loop over the groups. -/

section Loop

variable {server : Server} {cmName : String} {size groupSize total : Int}
variable {stored after before : List ConfigMap}

/-- The config map of an index: its owner is the first index of its group. -/
def Server.item (server : Server) (cmName : String) (size groupSize j : Int) : ConfigMap :=
  newConfigmap cmName (j / groupSize * groupSize) j (server.data size j)

/-- Once the index has wrapped around, the loop meets index zero a second time
and cannot succeed. -/
theorem createLoop_wrapped (positive : 0 < groupSize) (nonempty : 0 < total) {fuel : Nat} {i : Int}
    (low : -2 ^ 63 ≤ i) (wrapped : i ≤ 0) (fits : groupSize < 2 ^ 63)
    (present : configmapName cmName 0 ∈ stored.map ConfigMap.name) :
    createLoop server cmName size groupSize total fuel i stored ≠ some (after, .ok ()) := by
  induction fuel generalizing i stored with
  | zero => nofun
  | succ fuel ih =>
      have next : addInt64 i groupSize = i + groupSize := addInt64_eq (by omega) (by omega)
      rw [createLoop, if_pos (by omega), next]
      split
      · nofun
      · rename_i grown ran
        obtain ⟨rfl, fresh⟩ := createGroup_ok ran
        by_cases crossed : 0 < i + groupSize
        · have member : 0 ∈ indices i (min (i + groupSize) total) :=
            mem_indices.mpr ⟨wrapped, by omega⟩
          exact absurd present (fresh 0 ((server.schedule_perm _).mem_iff.mpr member)).1
        · refine ih (by omega) (by omega) ?_
          rw [List.map_append]
          exact List.mem_append_left _ present

theorem owner_of_group {j k : Int} (positive : 0 < groupSize)
    (least : k * groupSize ≤ j) (most : j < (k + 1) * groupSize) :
    j / groupSize * groupSize = k * groupSize := by
  have group : j / groupSize = k := le_antisymm
    (Int.lt_add_one_iff.mp (Int.ediv_lt_of_lt_mul positive most))
    (Int.le_ediv_of_mul_le positive least)
  rw [group]

/-- The set as it stands when the indices below `bound` are done. -/
structure Made (server : Server) (cmName : String) (size groupSize bound : Int)
    (before stored : List ConfigMap) : Prop where
  items : stored ~ before ++ (indices 0 bound).map (server.item cmName size groupSize)
  sized : ∀ j ∈ indices 0 bound, ((server.data size j).utf8ByteSize : Int) = size

theorem Made.group {first stop : Int} (positive : 0 < groupSize) {k : Nat}
    (start : first = k * groupSize) (low : first ≤ stop) (high : stop ≤ first + groupSize)
    (made : Made server cmName size groupSize first before stored)
    (ran : createGroup server cmName size first (server.schedule (indices first stop)) stored =
      (after, .ok ())) :
    Made server cmName size groupSize stop before after := by
  obtain ⟨rfl, created⟩ := createGroup_ok ran
  have nonnegative : 0 ≤ first := start ▸ Int.mul_nonneg (Int.natCast_nonneg k) positive.le
  have owner : ∀ j ∈ indices first stop, j / groupSize * groupSize = first := by
    intro j member
    obtain ⟨least, most⟩ := mem_indices.mp member
    have next : (k + 1) * groupSize = first + groupSize := by rw [add_mul, one_mul, start]
    rw [start]
    exact owner_of_group positive (start ▸ least) (by omega)
  have written : (indices first stop).map (fun j =>
      newConfigmap cmName first j (server.data size j)) =
        (indices first stop).map (server.item cmName size groupSize) := by
    refine List.map_congr_left fun j member => ?_
    rw [Server.item, owner j member]
  constructor
  · rw [indices_append nonnegative low, List.map_append, ← List.append_assoc, ← written]
    exact made.items.append ((server.schedule_perm _).map _)
  · intro j member
    rw [indices_append nonnegative low] at member
    cases List.mem_append.mp member with
    | inl earlier => exact made.sized j earlier
    | inr own => exact (created j ((server.schedule_perm _).mem_iff.mpr own)).2

theorem createLoop_ok (positive : 0 < groupSize) (within : groupSize ≤ total)
    (machine : total < 2 ^ 63) {fuel k : Nat}
    (made : Made server cmName size groupSize (min (k * groupSize) total) before stored)
    (ran : createLoop server cmName size groupSize total fuel (k * groupSize) stored =
      some (after, .ok ())) :
    Made server cmName size groupSize total before after := by
  induction fuel generalizing k stored with
  | zero => cases ran
  | succ fuel ih =>
      have next : ((k + 1 : Nat) : Int) * groupSize = k * groupSize + groupSize := by
        rw [Nat.cast_add, Nat.cast_one, add_mul, one_mul]
      have start : (0 : Int) ≤ k * groupSize := Int.mul_nonneg (Int.natCast_nonneg k) positive.le
      rw [createLoop] at ran
      by_cases more : k * groupSize < total
      · rw [if_pos more] at ran
        by_cases room : k * groupSize + groupSize < 2 ^ 63
        · rw [addInt64_eq (by omega) room] at ran
          split at ran
          · cases ran
          · rename_i grown created
            rw [min_eq_left more.le] at made
            have grownMade := made.group positive rfl (by omega) (by omega) created
            rw [← next] at ran grownMade
            exact ih grownMade ran
        · have wrapped : addInt64 (k * groupSize) groupSize =
              k * groupSize + groupSize - 2 ^ 64 := addInt64_overflow (by omega) (by omega)
          have nothing : indices (k * groupSize) (min (addInt64 (k * groupSize) groupSize) total) =
              [] := by
            rw [← List.length_eq_zero_iff, length_indices, wrapped]
            omega
          have idle : server.schedule [] = [] := (server.schedule_perm []).eq_nil
          rw [nothing, idle, createGroup, wrapped] at ran
          refine absurd ran (createLoop_wrapped positive (by omega) (by omega) (by omega)
            (by omega) ?_)
          have zero : 0 ∈ indices 0 (min (k * groupSize) total) :=
            mem_indices.mpr ⟨le_rfl, by omega⟩
          have member : server.item cmName size groupSize 0 ∈ stored :=
            made.items.mem_iff.mpr (List.mem_append_right _ (List.mem_map_of_mem zero))
          exact List.mem_map.mpr ⟨_, member, rfl⟩
      · rw [if_neg more] at ran
        cases ran
        rwa [min_eq_right (by omega)] at made

theorem createConfigmaps_ok (positive : 0 < groupSize) (within : groupSize ≤ total)
    (machine : total < 2 ^ 63) {fuel : Nat}
    (ran : createConfigmaps server cmName size groupSize total fuel before =
      some (after, .ok ())) :
    Made server cmName size groupSize total before after := by
  have start : ((0 : Nat) : Int) * groupSize = 0 := by simp
  have nothing : indices 0 (min 0 total) = [] := by
    rw [← List.length_eq_zero_iff, length_indices]
    omega
  rw [createConfigmaps, ← start] at ran
  refine createLoop_ok positive within machine ⟨?_, ?_⟩ ran
  · rw [start, nothing, List.map_nil, List.append_nil]
  · rw [start, nothing]
    nofun

end Loop

/-! The listing of one set among others. -/

section List

variable {cmName : String} {size : Int}

/-- An item as `add` writes it: it names its set and an owner. -/
structure Labelled (cm : ConfigMap) (name : String) (owner : Int) : Prop where
  name : cm.labels.lookup "cmName" = some name
  owner : ∃ text, cm.labels.lookup "ownerID" = some text ∧ Decimal.atoi text = .ok owner

def firstPositive (owners : List Int) : Int := (owners.find? fun owner => 0 < owner).getD 0

/-- What the listing holds of a set whose items, met so far, had these owners. -/
def summary (size : Int) (owners : List Int) : Option SetInfo :=
  if owners.isEmpty then none else some ⟨size, firstPositive owners, owners.length⟩

theorem firstPositive_concat (owners : List Int) (owner : Int) :
    firstPositive (owners ++ [owner]) =
      if firstPositive owners ≠ 0 then firstPositive owners
      else if 0 < owner then owner else 0 := by
  unfold firstPositive
  rw [List.find?_append]
  cases found : owners.find? fun owner => 0 < owner with
  | none =>
      by_cases positive : 0 < owner
      · simp [positive]
      · simp [positive]
  | some first =>
      have positive : 0 < first := by simpa using List.find?_some found
      simp [positive.ne']

theorem summary_getD (size : Int) (owners : List Int) :
    (summary size owners).getD ⟨size, 0, 0⟩ = ⟨size, firstPositive owners, owners.length⟩ := by
  cases owners with
  | nil => rfl
  | cons first rest => rfl

theorem summary_concat (size : Int) (owners : List Int) (owner : Int) :
    summary size (owners ++ [owner]) =
      some ⟨size, firstPositive (owners ++ [owner]), owners.length + 1⟩ := by
  simp [summary]

theorem recordItem_other {cmMap : StringMap SetInfo} {cm : ConfigMap} {name : String} {owner : Int}
    (labelled : Labelled cm name owner) (other : name ≠ cmName) :
    ∃ next, recordItem cmMap cm = .ok next ∧ next.lookup cmName = cmMap.lookup cmName := by
  obtain ⟨text, found, parsed⟩ := labelled.owner
  unfold recordItem
  rw [labelled.name]
  dsimp only
  split_ifs
  · exact ⟨_, rfl, AList.lookup_insert_ne other.symm⟩
  · rw [found]
    dsimp only
    rw [parsed]
    exact ⟨_, rfl, AList.lookup_insert_ne other.symm⟩

theorem recordItem_own {cmMap : StringMap SetInfo} {cm : ConfigMap} {owner : Int} {seen : List Int}
    (labelled : Labelled cm cmName owner)
    (sized : ((cm.data.lookup "data").map fun data => (data.utf8ByteSize : Int)) = some size)
    (few : (seen.length : Int) + 1 < 2 ^ 63) (before : cmMap.lookup cmName = summary size seen) :
    ∃ next, recordItem cmMap cm = .ok next ∧
      next.lookup cmName = summary size (seen ++ [owner]) := by
  obtain ⟨text, found, parsed⟩ := labelled.owner
  have counted : addInt64 seen.length 1 = seen.length + 1 := addInt64_eq (by omega) few
  unfold recordItem
  rw [labelled.name]
  dsimp only
  rw [before, sized, found, Option.getD_some, summary_getD, summary_concat, firstPositive_concat]
  dsimp only
  rw [parsed, counted]
  split_ifs with known
  · exact ⟨_, rfl, by simp⟩
  · exact ⟨_, rfl, by simp_all⟩
  · exact ⟨_, rfl, by simp_all⟩

def ownerOf (cm : ConfigMap) : Int :=
  match cm.labels.lookup "ownerID" with
  | none => 0
  | some text =>
      match Decimal.atoi text with
      | .ok owner => owner
      | .error _ => 0

theorem Labelled.ownerOf_eq {cm : ConfigMap} {name : String} {owner : Int}
    (labelled : Labelled cm name owner) : ownerOf cm = owner := by
  obtain ⟨text, found, parsed⟩ := labelled.owner
  rw [ownerOf, found]
  dsimp only
  rw [parsed]

def belongs (cmName : String) (cm : ConfigMap) : Bool := cm.labels.lookup "cmName" = some cmName

theorem foldlM_recordItem {items : List ConfigMap} {cmMap : StringMap SetInfo} {seen : List Int}
    (labelled : ∀ cm ∈ items, ∃ name owner, Labelled cm name owner)
    (sized : ∀ cm ∈ items, belongs cmName cm = true →
      ((cm.data.lookup "data").map fun data => (data.utf8ByteSize : Int)) = some size)
    (few : (seen.length + (items.filter (belongs cmName)).length : Int) < 2 ^ 63)
    (before : cmMap.lookup cmName = summary size seen) :
    ∃ listed, items.foldlM recordItem cmMap = .ok listed ∧
      listed.lookup cmName =
        summary size (seen ++ (items.filter (belongs cmName)).map ownerOf) := by
  induction items generalizing cmMap seen with
  | nil => exact ⟨cmMap, rfl, by simpa using before⟩
  | cons cm rest ih =>
      obtain ⟨⟨name, owner, own⟩, others⟩ := List.forall_mem_cons.mp labelled
      obtain ⟨ownSized, othersSized⟩ := List.forall_mem_cons.mp sized
      rw [List.foldlM_cons]
      by_cases same : name = cmName
      · subst name
        have belonging : belongs cmName cm = true := by simp [belongs, own.name]
        rw [List.filter_cons_of_pos belonging] at few ⊢
        rw [List.length_cons] at few
        obtain ⟨next, recorded, grown⟩ := recordItem_own own (ownSized belonging) (by omega) before
        rw [recorded, List.map_cons, own.ownerOf_eq]
        have continued := ih others othersSized (by simp; omega) grown
        rwa [List.append_assoc] at continued
      · have foreign : ¬belongs cmName cm = true := by simpa [belongs, own.name] using same
        rw [List.filter_cons_of_neg foreign] at few ⊢
        obtain ⟨next, recorded, kept⟩ := recordItem_other own same
        rw [recorded]
        exact ih others othersSized few (kept.trans before)

end List

/-- The rest of the namespace: items of this program belong to sets of other names. -/
structure OtherSets (cmName : String) (stored : List ConfigMap) : Prop where
  fresh : ∀ cm ∈ stored, cm.labels.lookup "app" = some appLebel → belongs cmName cm = false
  labelled : ∀ cm ∈ stored, cm.labels.lookup "app" = some appLebel →
    ∃ name owner, Labelled cm name owner

section Listing

variable {server : Server} {cmName : String} {size groupSize total : Int}
variable {before after items : List ConfigMap} {selector : Selector}

def Selector.Includes (selector : Selector) (cmName : String) : Prop :=
  ∀ names, selector.names = some names → cmName ∈ names

theorem newConfigmap_labels (cmName : String) (ownerID j : Int) (data : String) :
    (newConfigmap cmName ownerID j data).labels.lookup "cmName" = some cmName ∧
      (newConfigmap cmName ownerID j data).labels.lookup "app" = some appLebel ∧
      (newConfigmap cmName ownerID j data).labels.lookup "ownerID" = some (toString ownerID) :=
  ⟨rfl, rfl, rfl⟩

theorem owner_bounds {j : Int} (positive : 0 < groupSize) (low : 0 ≤ j) :
    0 ≤ j / groupSize * groupSize ∧ j / groupSize * groupSize ≤ j :=
  ⟨Int.mul_nonneg (Int.ediv_nonneg low positive.le) positive.le, Int.ediv_mul_le j positive.ne'⟩

theorem newConfigmap_labelled {cmName : String} {ownerID : Int} (low : 0 ≤ ownerID)
    (high : ownerID < 2 ^ 63) (j : Int) (data : String) :
    Labelled (newConfigmap cmName ownerID j data) cmName ownerID where
  name := (newConfigmap_labels ..).1
  owner := ⟨_, (newConfigmap_labels ..).2.2, Decimal.atoi_toString low high⟩

theorem item_labelled {j : Int} (positive : 0 < groupSize) (low : 0 ≤ j) (high : j < 2 ^ 63) :
    Labelled (server.item cmName size groupSize j) cmName (j / groupSize * groupSize) := by
  obtain ⟨least, most⟩ := owner_bounds positive low
  exact newConfigmap_labelled least (by omega) j _

theorem item_selected (included : selector.Includes cmName) (j : Int) :
    selector.selects (server.item cmName size groupSize j) = true := by
  obtain ⟨names⟩ := selector
  cases names with
  | none => rfl
  | some names =>
      have member : cmName ∈ names := included names rfl
      simpa [Selector.selects, Server.item, newConfigmap_labels] using member

theorem selects_app {cm : ConfigMap} (selected : selector.selects cm = true) :
    cm.labels.lookup "app" = some appLebel := by
  rw [Selector.selects, Bool.and_eq_true, decide_eq_true_eq] at selected
  exact selected.1

theorem selected_perm (made : Made server cmName size groupSize total before after)
    (included : selector.Includes cmName) :
    after.filter selector.selects ~
      before.filter selector.selects ++
        (indices 0 total).map (server.item cmName size groupSize) := by
  have kept : ((indices 0 total).map (server.item cmName size groupSize)).filter selector.selects =
      (indices 0 total).map (server.item cmName size groupSize) := by
    refine List.filter_eq_self.mpr fun cm member => ?_
    obtain ⟨j, -, rfl⟩ := List.mem_map.mp member
    exact item_selected included j
  rw [← kept, ← List.filter_append]
  exact made.items.filter selector.selects

theorem OtherSets.filter_belongs (others : OtherSets cmName before) :
    (before.filter selector.selects).filter (belongs cmName) = [] := by
  refine List.filter_eq_nil_iff.mpr fun cm member => ?_
  obtain ⟨stored, selected⟩ := List.mem_filter.mp member
  rw [others.fresh cm stored (selects_app selected)]
  exact Bool.false_ne_true

theorem items_belong (order : List Int) :
    (order.map (server.item cmName size groupSize)).filter (belongs cmName) =
      order.map (server.item cmName size groupSize) := by
  refine List.filter_eq_self.mpr fun cm member => ?_
  obtain ⟨j, -, rfl⟩ := List.mem_map.mp member
  exact decide_eq_true (newConfigmap_labels ..).1

theorem owners_items {order : List Int} (positive : 0 < groupSize) (machine : total < 2 ^ 63)
    (inside : order ⊆ indices 0 total) :
    (order.map (server.item cmName size groupSize)).map ownerOf =
      order.map fun j => j / groupSize * groupSize := by
  rw [List.map_map]
  refine List.map_congr_left fun j member => ?_
  obtain ⟨low, high⟩ := mem_indices.mp (inside member)
  exact (item_labelled positive low (by omega)).ownerOf_eq

/-- Whatever else the answer holds, its items of the set are those of `add`. -/
theorem own_perm (others : OtherSets cmName before)
    (made : Made server cmName size groupSize total before after)
    (included : selector.Includes cmName) (answered : items ~ after.filter selector.selects) :
    items.filter (belongs cmName) ~
      (indices 0 total).map (server.item cmName size groupSize) := by
  have own := (answered.trans (selected_perm made included)).filter (belongs cmName)
  rwa [List.filter_append, others.filter_belongs, items_belong, List.nil_append] at own

theorem listConfigmapsByName_summary (positive : 0 < groupSize) (machine : total < 2 ^ 63)
    (others : OtherSets cmName before)
    (made : Made server cmName size groupSize total before after)
    (included : selector.Includes cmName) (answered : items ~ after.filter selector.selects) :
    ∃ listed, listConfigmapsByName (.ok items) = .ok listed ∧
      listed.lookup cmName = summary size ((items.filter (belongs cmName)).map ownerOf) := by
  have own := own_perm others made included answered
  have count : (items.filter (belongs cmName)).length = total.toNat := by
    rw [own.length_eq, List.length_map, length_indices, Int.sub_zero]
  have few : (([] : List Int).length + (items.filter (belongs cmName)).length : Int) < 2 ^ 63 := by
    rw [count, List.length_nil]
    omega
  refine foldlM_recordItem (fun cm member => ?_) (fun cm member mine => ?_) few rfl
  · obtain ⟨stored, selected⟩ := List.mem_filter.mp (answered.mem_iff.mp member)
    cases List.mem_append.mp (made.items.mem_iff.mp stored) with
    | inl earlier => exact others.labelled cm earlier (selects_app selected)
    | inr added =>
        obtain ⟨j, inside, rfl⟩ := List.mem_map.mp added
        obtain ⟨low, high⟩ := mem_indices.mp inside
        exact ⟨cmName, _, item_labelled positive low (by omega)⟩
  · have added := own.mem_iff.mp (List.mem_filter.mpr ⟨member, mine⟩)
    obtain ⟨j, inside, rfl⟩ := List.mem_map.mp added
    exact congrArg some (made.sized j inside)

theorem firstPositive_eq {owners : List Int} {owner : Int} (positive : 0 < owner)
    (member : owner ∈ owners) (only : ∀ other ∈ owners, 0 < other → other = owner) :
    firstPositive owners = owner := by
  unfold firstPositive
  cases found : owners.find? fun owner => 0 < owner with
  | none =>
      have none := List.find?_eq_none.mp found owner member
      simp only [decide_eq_true_eq] at none
      exact absurd positive none
  | some first =>
      exact only first (List.mem_of_find?_eq_some found) (by simpa using List.find?_some found)

theorem firstPositive_cons {owners : List Int} {owner : Int} (positive : 0 < owner) :
    firstPositive (owner :: owners) = owner := by
  simp [firstPositive, positive]

theorem firstPositive_eq_zero {owners : List Int} (none : ∀ owner ∈ owners, ¬0 < owner) :
    firstPositive owners = 0 := by
  unfold firstPositive
  rw [List.find?_eq_none.mpr fun owner member => by simpa using none owner member]
  rfl

theorem summary_of_perm {owners : List Int} (positive : 0 < groupSize) (within : groupSize ≤ total)
    (all : owners ~ (indices 0 total).map fun j => j / groupSize * groupSize) :
    summary size owners = some ⟨size, firstPositive owners, total⟩ := by
  have count : owners.length = total.toNat := by
    rw [all.length_eq, List.length_map, length_indices, Int.sub_zero]
  rw [summary, if_neg (by rw [List.isEmpty_iff_length_eq_zero]; omega)]
  congr 2
  omega

/-- In every order of the owners the first positive one is the group size exactly
when the set has two groups. -/
theorem firstPositive_iff (positive : 0 < groupSize) (within : groupSize ≤ total) :
    (∀ owners, owners ~ (indices 0 total).map (fun j => j / groupSize * groupSize) →
      firstPositive owners = groupSize) ↔ groupSize < total ∧ total ≤ 2 * groupSize := by
  constructor
  · intro always
    by_contra outside
    by_cases single : total ≤ groupSize
    · have zero : firstPositive ((indices 0 total).map fun j => j / groupSize * groupSize) = 0 := by
        refine firstPositive_eq_zero fun owner member => ?_
        obtain ⟨j, inside, rfl⟩ := List.mem_map.mp member
        obtain ⟨low, high⟩ := mem_indices.mp inside
        have first : j / groupSize * groupSize = 0 * groupSize :=
          owner_of_group positive (by omega) (by omega)
        omega
      have listed := always _ (List.Perm.refl _)
      omega
    · have third : 2 * groupSize ∈ (indices 0 total).map fun j => j / groupSize * groupSize :=
        List.mem_map.mpr ⟨2 * groupSize, mem_indices.mpr ⟨by omega, by omega⟩,
          owner_of_group positive le_rfl (by omega)⟩
      have listed := always _ (List.perm_cons_erase third).symm
      rw [firstPositive_cons (by omega)] at listed
      omega
  · rintro ⟨more, few⟩ owners all
    have second : groupSize / groupSize * groupSize = 1 * groupSize :=
      owner_of_group positive (by omega) (by omega)
    rw [one_mul] at second
    refine firstPositive_eq positive (all.mem_iff.mpr ?_) fun owner member above => ?_
    · exact List.mem_map.mpr ⟨groupSize, mem_indices.mpr ⟨by omega, more⟩, second⟩
    · obtain ⟨j, inside, rfl⟩ := List.mem_map.mp (all.mem_iff.mp member)
      obtain ⟨low, high⟩ := mem_indices.mp inside
      by_cases early : j < groupSize
      · have first : j / groupSize * groupSize = 0 * groupSize :=
          owner_of_group positive (by omega) (by omega)
        omega
      · have later : j / groupSize * groupSize = 1 * groupSize :=
          owner_of_group positive (by omega) (by omega)
        omega

/-- The server may return the items so that the owners come in any order. -/
theorem exists_answer (positive : 0 < groupSize) (machine : total < 2 ^ 63)
    (others : OtherSets cmName before)
    (made : Made server cmName size groupSize total before after)
    (included : selector.Includes cmName) {owners : List Int}
    (all : owners ~ (indices 0 total).map fun j => j / groupSize * groupSize) :
    ∃ items, items ~ after.filter selector.selects ∧
      (items.filter (belongs cmName)).map ownerOf = owners := by
  obtain ⟨order, rfl, same⟩ : ∃ order,
      owners = order.map (fun j => j / groupSize * groupSize) ∧ order ~ indices 0 total := by
    have reordered := List.eq_map_comp_perm fun j : Int => j / groupSize * groupSize
    exact (congrFun₂ reordered owners (indices 0 total)).mpr all
  refine ⟨before.filter selector.selects ++ order.map (server.item cmName size groupSize), ?_, ?_⟩
  · exact ((List.Perm.refl _).append (same.map _)).trans (selected_perm made included).symm
  · rw [List.filter_append, others.filter_belongs, items_belong, List.nil_append]
    exact owners_items positive machine same.subset

theorem list_undoes_add_iff {fuel : Nat}
    (accepted : checkConfigmapParams size groupSize total = .ok ()) (machine : total < 2 ^ 63)
    (others : OtherSets cmName before)
    (created : createConfigmaps server cmName size groupSize total fuel before =
      some (after, .ok ())) :
    (∀ selector : Selector, selector.Includes cmName → ∀ items,
      items ~ after.filter selector.selects →
        ∃ listed, listConfigmapsByName (.ok items) = .ok listed ∧
          listed.lookup cmName = some ⟨size, groupSize, total⟩) ↔
      groupSize < total ∧ total ≤ 2 * groupSize := by
  obtain ⟨-, positive, -, within⟩ := checkConfigmapParams_eq_ok.mp accepted
  have made := createConfigmaps_ok positive within machine created
  rw [← firstPositive_iff positive within]
  constructor
  · intro undone owners all
    have included : Selector.Includes ⟨none⟩ cmName := nofun
    obtain ⟨items, answered, rfl⟩ := exists_answer positive machine others made included all
    obtain ⟨listed, returned, found⟩ := undone ⟨none⟩ included items answered
    obtain ⟨same, again, summed⟩ :=
      listConfigmapsByName_summary positive machine others made included answered
    cases returned.symm.trans again
    rw [summed, summary_of_perm positive within all, Option.some.injEq] at found
    exact congrArg SetInfo.groupSize found
  · intro always selector included items answered
    obtain ⟨listed, returned, summed⟩ :=
      listConfigmapsByName_summary positive machine others made included answered
    have all := (own_perm others made included answered).map ownerOf
    rw [owners_items positive machine (List.Subset.refl _)] at all
    refine ⟨listed, returned, ?_⟩
    rw [summed, summary_of_perm positive within all, always _ all]

end Listing

/-- A server on which every call succeeds and creations run in order. -/
def reliable : Server where
  random _ _ := .ok ⟨0, by decide⟩
  createFails _ := none
  schedule := id
  schedule_perm := List.Perm.refl

theorem otherSets_singleton : OtherSets "set" [newConfigmap "other" 0 0 "a"] where
  fresh := List.forall_mem_singleton.mpr fun _ => by decide
  labelled := List.forall_mem_singleton.mpr fun _ =>
    ⟨"other", 0, newConfigmap_labelled le_rfl (by decide) 0 "a"⟩

theorem list_undoes_add_iff_twoGroups :
    ∃ after, createConfigmaps reliable "set" 1 1 2 3 [newConfigmap "other" 0 0 "a"] =
        some (after, .ok ()) ∧
      ∀ selector : Selector, selector.Includes "set" → ∀ items,
        items ~ after.filter selector.selects →
          ∃ listed, listConfigmapsByName (.ok items) = .ok listed ∧
            listed.lookup "set" = some ⟨1, 1, 2⟩ := by
  have created : createConfigmaps reliable "set" 1 1 2 3 [newConfigmap "other" 0 0 "a"] =
      some (_, .ok ()) := rfl
  refine ⟨_, created, ?_⟩
  exact (list_undoes_add_iff rfl (by decide) otherSets_singleton created).mpr
    ⟨by decide, by decide⟩

/-- A set of one group: its only owner is index zero, so no group size is found. -/
theorem oneGroup_not_undone :
    checkConfigmapParams 1 1 1 = .ok () ∧
      ∃ after, createConfigmaps reliable "set" 1 1 1 2 [] = some (after, .ok ()) ∧
        ∃ listed, listConfigmapsByName (.ok (after.filter (Selector.selects ⟨none⟩))) = .ok listed ∧
          listed.lookup "set" = some ⟨1, 0, 1⟩ :=
  ⟨rfl, _, rfl, _, rfl, rfl⟩

end Kperf.Contrib.Configmaps
