import Kperf.Library.Transition
import Kperf.VirtualCluster.NodepoolCalls

/-! `ListNodepools` against the set of pools that it stands for: the names whose
last successful call was a `CreateNodepool`. Nothing fails here. -/

set_option autoImplicit false

namespace Kperf.VirtualCluster

open Outcome

def lastOperation (history : List (Operation × String)) (name : String) : Option Operation :=
  history.foldl (fun last entry => if entry.2 = name then some entry.1 else last) none

@[simp] theorem lastOperation_concat (history : List (Operation × String)) (operation : Operation)
    (other name : String) :
    lastOperation (history ++ [(operation, other)]) name =
      if other = name then some operation else lastOperation history name := by
  simp [lastOperation, List.foldl_append]

/-- Some `CreateNodepool` succeeded, so the lifecycle releases were installed. -/
def State.created (state : State) : Bool := state.history.any fun entry => entry.1 = .create

/-- What the listing and the lifecycle releases have to be. -/
structure Refines (state : State) : Prop where
  listed : ∀ order, ∃ pools, listNodepools .clean order state.releases = .ok pools ∧
    (pools.map Sigma.fst).Nodup ∧
    ∀ name, name ∈ pools.map Sigma.fst ↔ lastOperation state.history name = some .create
  lifecycle : state.created = true →
    state.releases.lookup virtualnodeLifecycleCRDRelName = some lifecycleCRDRelease ∧
      state.releases.lookup virtualnodeLifecycleDefRelName = some lifecycleDefRelease

def Call.Clean : Call → Prop
  | .create faults _ _ => faults = .clean
  | .delete faults _ => faults = .clean
  | .list faults _ => faults = .clean

instance : DecidablePred Call.Clean
  | .create faults _ _ => inferInstanceAs (Decidable (faults = .clean))
  | .delete faults _ => inferInstanceAs (Decidable (faults = .clean))
  | .list faults _ => inferInstanceAs (Decidable (faults = .clean))

/-- The call does not touch the lifecycle names: a `CreateNodepool` under their
lead is turned down, and a `DeleteNodepool` finds no lifecycle release. -/
def Call.Spares (releases : Releases) : Call → Prop
  | .create _ name opts =>
      Text.hasPrefix name reservedLifecyclePrefixName = true →
        (NodepoolConfig.configure name opts).validate ≠ .ok () ∨ name ∈ releases
  | .delete _ name =>
      name = virtualnodeLifecycleCRDRelName ∨ name = virtualnodeLifecycleDefRelName →
        name ∉ releases
  | .list _ _ => True

theorem listNodepools_clean (order : RangeOrder) (releases : Releases) :
    ∃ pools, listNodepools .clean order releases = .ok pools ∧ (pools.map Sigma.fst).Nodup ∧
      ∀ name, name ∈ pools.map Sigma.fst ↔ name ∈ releases ∧ ¬Reserved name := by
  refine ⟨_, rfl, ?_, ?_⟩
  · have visited : ((order.visit releases).map Sigma.fst).Perm releases.keys :=
      (order.perm releases).map _
    exact (List.filter_sublist.map Sigma.fst).nodup (visited.nodup_iff.mpr releases.keys_nodup)
  · intro name
    have visited : name ∈ (order.visit releases).map Sigma.fst ↔ name ∈ releases :=
      ((order.perm releases).map Sigma.fst).mem_iff
    rw [← visited]
    simp only [List.mem_map, List.mem_filter, Reserved]
    constructor
    · rintro ⟨entry, ⟨member, shown⟩, rfl⟩
      exact ⟨⟨entry, member, rfl⟩, by simpa using shown⟩
    · rintro ⟨⟨entry, member, rfl⟩, unreserved⟩
      exact ⟨entry, ⟨member, by simpa using unreserved⟩, rfl⟩

section Calls

variable {name : String} {opts : List NodepoolOpt} {releases : Releases}

theorem createNodepool_clean_ok (valid : (NodepoolConfig.configure name opts).validate = .ok ())
    (absent : name ∉ releases) :
    createNodepool .clean name opts releases =
      (((NodepoolConfig.configure name opts).prepared releases).insert name
        (NodepoolConfig.configure name opts).nodeRelease, .ok ()) := by
  have lifecycle : installNodeLifecycleDef .clean .clean releases =
      ((releases.insert virtualnodeLifecycleCRDRelName lifecycleCRDRelease).insert
        virtualnodeLifecycleDefRelName lifecycleDefRelease, .ok ()) := by
    simp [installNodeLifecycleDef, installNodeLifecycleCRD, deployChart_clean, wrap]
  have prepared : prepareNodepool .clean (.configure name opts) releases =
      ((NodepoolConfig.configure name opts).prepared releases, .ok ()) := by
    simp [prepareNodepool, valid, CreateFaults.clean, check, NodepoolConfig.nodeHelmReleaseName,
      absent, lifecycle, createNodepoolController, deployChart_clean, NodepoolConfig.prepared]
  have nodes : CreateFaults.clean.nodes = .clean := rfl
  simp [createNodepool, prepared, nodes, deployChart_clean, NodepoolConfig.nodeHelmReleaseName]

theorem createNodepool_clean_error
    (turnedDown : (NodepoolConfig.configure name opts).validate ≠ .ok () ∨ name ∈ releases) :
    ∃ fault, createNodepool .clean name opts releases = (releases, .error fault) := by
  cases checked : (NodepoolConfig.configure name opts).validate with
  | error fault => exact ⟨fault, by simp [createNodepool, prepareNodepool, checked]⟩
  | ok passed =>
      have present : name ∈ releases := by
        cases turnedDown with
        | inl invalid => exact absurd checked invalid
        | inr present => exact present
      refine ⟨.error ("nodepool " ++ name ++ " already exists"), ?_⟩
      simp [createNodepool, prepareNodepool, checked, CreateFaults.clean, check,
        NodepoolConfig.nodeHelmReleaseName, present, fail]

theorem deleteNodepool_clean_ok (valid : (NodepoolConfig.configure name []).validate = .ok ())
    (releases : Releases) :
    ∃ rest, deleteNodepool .clean name releases = (rest, .ok ()) ∧
      ∀ key, rest.lookup key =
        if key = name ∨ key = name ++ reservedNodepoolSuffixName then none
        else releases.lookup key := by
  refine ⟨(Helm.uninstall .none (name ++ reservedNodepoolSuffixName)
    (Helm.uninstall .none name releases).1).1, ?_, fun key => ?_⟩
  · simp [deleteNodepool, valid, DeleteFaults.clean, check, Helm.delete_none, wrap,
      NodepoolConfig.nodeControllerHelmReleaseName, NodepoolConfig.nodeHelmReleaseName]
  by_cases own : key = name ++ reservedNodepoolSuffixName
  · subst key
    simp [Helm.lookup_uninstall_none]
  · rw [Helm.lookup_uninstall_ne _ own]
    by_cases nodes : key = name
    · subst key
      simp [Helm.lookup_uninstall_none]
    · rw [Helm.lookup_uninstall_ne _ nodes]
      simp [own, nodes]

theorem deleteNodepool_error {fault : Fault} {faults : DeleteFaults}
    (invalid : (NodepoolConfig.configure name []).validate = .error fault) :
    deleteNodepool faults name releases = (releases, .error fault) := by
  simp [deleteNodepool, invalid]

end Calls

/-- The invariant behind the listing: outside the reserved names the releases
are the pools, and the lifecycle releases are there once a pool was created. -/
structure Tracks (state : State) : Prop where
  pools : ∀ name, ¬Reserved name →
    (name ∈ state.releases ↔ lastOperation state.history name = some .create)
  reserved : ∀ name, Reserved name → lastOperation state.history name ≠ some .create
  lifecycleCRD : state.releases.lookup virtualnodeLifecycleCRDRelName =
    if state.created then some lifecycleCRDRelease else none
  lifecycleDef : state.releases.lookup virtualnodeLifecycleDefRelName =
    if state.created then some lifecycleDefRelease else none

theorem Tracks.empty : Tracks .empty where
  pools name _ := by simp [State.empty, lastOperation, AList.notMem_empty]
  reserved name _ := by simp [State.empty, lastOperation]
  lifecycleCRD := rfl
  lifecycleDef := rfl

theorem Tracks.refines {state : State} (tracks : Tracks state) : Refines state where
  listed order := by
    obtain ⟨pools, listed, distinct, shown⟩ := listNodepools_clean order state.releases
    refine ⟨pools, listed, distinct, fun name => ?_⟩
    rw [shown name]
    by_cases reserved : Reserved name
    · simp [reserved, tracks.reserved name reserved]
    · simp [reserved, tracks.pools name reserved]
  lifecycle created := by
    rw [tracks.lifecycleCRD, tracks.lifecycleDef]
    simp [created]

section Steps

variable {state : State} {name : String} {opts : List NodepoolOpt}

theorem perform_create_ok (valid : (NodepoolConfig.configure name opts).validate = .ok ())
    (absent : name ∉ state.releases) :
    state.perform (.create .clean name opts) =
      ⟨((NodepoolConfig.configure name opts).prepared state.releases).insert name
        (NodepoolConfig.configure name opts).nodeRelease, state.history ++ [(.create, name)]⟩ := by
  rw [State.perform, createNodepool_clean_ok valid absent]
  rfl

theorem perform_create_error (turnedDown :
    (NodepoolConfig.configure name opts).validate ≠ .ok () ∨ name ∈ state.releases) :
    state.perform (.create .clean name opts) = state := by
  obtain ⟨fault, ran⟩ := createNodepool_clean_error turnedDown
  rw [State.perform, ran]
  rfl

theorem ne_controller_of_hasSuffix {name other : String}
    (ended : Text.hasSuffix other reservedNodepoolSuffixName = false) :
    other ≠ name ++ reservedNodepoolSuffixName := by
  rintro rfl
  simp at ended

theorem ne_of_reserved {name other : String} (unreserved : ¬Reserved name)
    (reserved : Reserved other) : other ≠ name :=
  fun same => unreserved (same ▸ reserved)

theorem lookup_prepared (cfg : NodepoolConfig) (releases : Releases) :
    (cfg.prepared releases).lookup virtualnodeLifecycleCRDRelName = some lifecycleCRDRelease ∧
      (cfg.prepared releases).lookup virtualnodeLifecycleDefRelName = some lifecycleDefRelease := by
  have crd : virtualnodeLifecycleCRDRelName ≠ cfg.nodeControllerHelmReleaseName :=
    ne_controller_of_hasSuffix (by decide)
  have definition : virtualnodeLifecycleDefRelName ≠ cfg.nodeControllerHelmReleaseName :=
    ne_controller_of_hasSuffix (by decide)
  constructor
  · rw [NodepoolConfig.prepared, AList.lookup_insert_ne crd, AList.lookup_insert_ne (by decide),
      AList.lookup_insert]
  · rw [NodepoolConfig.prepared, AList.lookup_insert_ne definition, AList.lookup_insert]

theorem Tracks.insert {cfg : NodepoolConfig} {release : Release} (tracks : Tracks state)
    (unreserved : ¬Reserved name) :
    Tracks ⟨(cfg.prepared state.releases).insert name release,
      state.history ++ [(.create, name)]⟩ where
  pools other poolName := by
    rw [AList.mem_insert, lastOperation_concat, (prepared_grows cfg _).pools other poolName,
      tracks.pools other poolName]
    by_cases same : other = name
    · simp [same]
    · simp [same, Ne.symm same]
  reserved other reserved := by
    rw [lastOperation_concat, if_neg (ne_of_reserved unreserved reserved).symm]
    exact tracks.reserved other reserved
  lifecycleCRD := by
    rw [AList.lookup_insert_ne (ne_of_reserved unreserved reserved_lifecycleCRD),
      (lookup_prepared cfg _).1]
    simp [State.created]
  lifecycleDef := by
    rw [AList.lookup_insert_ne (ne_of_reserved unreserved reserved_lifecycleDef),
      (lookup_prepared cfg _).2]
    simp [State.created]

theorem Tracks.create (tracks : Tracks state)
    (spared : (Call.create .clean name opts).Spares state.releases) :
    Tracks (state.perform (.create .clean name opts)) := by
  by_cases turnedDown :
      (NodepoolConfig.configure name opts).validate ≠ .ok () ∨ name ∈ state.releases
  · rwa [perform_create_error turnedDown]
  · obtain ⟨accepted, absent⟩ := not_or.mp turnedDown
    have valid := not_not.mp accepted
    have unreserved : ¬Reserved name := by
      rintro (ending | lead)
      · have ended := (NodepoolConfig.validate_eq_ok.mp valid).2.2.2
        rw [NodepoolConfig.configure_name, ending] at ended
        cases ended
      · exact turnedDown (spared lead)
    rw [perform_create_ok valid absent]
    exact tracks.insert unreserved

theorem Tracks.erase {rest : Releases} (tracks : Tracks state)
    (spared : (Call.delete .clean name).Spares state.releases)
    (left : ∀ key, rest.lookup key =
      if key = name ∨ key = name ++ reservedNodepoolSuffixName then none
      else state.releases.lookup key) :
    Tracks ⟨rest, state.history ++ [(.delete, name)]⟩ := by
  have created : State.created ⟨rest, state.history ++ [(.delete, name)]⟩ = state.created := by
    simp [State.created]
  have lifecycle : ∀ {key}, Text.hasSuffix key reservedNodepoolSuffixName = false →
      key = virtualnodeLifecycleCRDRelName ∨ key = virtualnodeLifecycleDefRelName →
      rest.lookup key = state.releases.lookup key := by
    intro key ended known
    rw [left key]
    by_cases same : key = name
    · rw [if_pos (.inl same), AList.lookup_eq_none.mpr]
      exact same ▸ spared (same ▸ known)
    · rw [if_neg]
      rintro (equal | equal)
      · exact same equal
      · exact ne_controller_of_hasSuffix ended equal
  constructor
  · intro other poolName
    rw [lastOperation_concat, ← AList.lookup_isSome, left other]
    have notController : other ≠ name ++ reservedNodepoolSuffixName :=
      (ne_of_reserved poolName (.inl (Text.hasSuffix_append _ _))).symm
    by_cases same : other = name
    · simp [same]
    · simp only [same, notController, or_self, if_false, AList.lookup_isSome, Ne.symm same]
      exact tracks.pools other poolName
  · intro other reserved
    rw [lastOperation_concat]
    split_ifs with same
    · simp
    · exact tracks.reserved other reserved
  · rw [created, ← tracks.lifecycleCRD]
    exact lifecycle (by decide) (.inl rfl)
  · rw [created, ← tracks.lifecycleDef]
    exact lifecycle (by decide) (.inr rfl)

theorem Tracks.delete (tracks : Tracks state)
    (spared : (Call.delete .clean name).Spares state.releases) :
    Tracks (state.perform (.delete .clean name)) := by
  cases checked : (NodepoolConfig.configure name []).validate with
  | error fault =>
      rw [State.perform, deleteNodepool_error checked]
      exact tracks
  | ok passed =>
      obtain ⟨rest, ran, left⟩ := deleteNodepool_clean_ok checked state.releases
      rw [State.perform, ran]
      exact tracks.erase spared left

/-- A pool created under the lead of the lifecycle releases is not listed. -/
theorem Refines.create_spares (refines : Refines (state.perform (.create .clean name opts))) :
    (Call.create .clean name opts).Spares state.releases := by
  intro lead
  by_contra accepted
  obtain ⟨valid, absent⟩ := not_or.mp accepted
  rw [perform_create_ok (not_not.mp valid) absent] at refines
  obtain ⟨pools, listed, -, shown⟩ := refines.listed .stored
  obtain ⟨others, same, -, unreserved⟩ := listNodepools_clean .stored
    (((NodepoolConfig.configure name opts).prepared state.releases).insert name
      (NodepoolConfig.configure name opts).nodeRelease)
  cases listed.symm.trans same
  have member := (shown name).mpr (by simp)
  exact ((unreserved name).mp member).2 (.inr lead)

theorem Refines.delete_spares (tracks : Tracks state)
    (refines : Refines (state.perform (.delete .clean name))) :
    (Call.delete .clean name).Spares state.releases := by
  intro known present
  have valid : (NodepoolConfig.configure name []).validate = .ok () := by
    rcases known with rfl | rfl <;> rfl
  obtain ⟨rest, ran, left⟩ := deleteNodepool_clean_ok valid state.releases
  rw [State.perform, ran] at refines
  have created : state.created = true := by
    rw [← AList.lookup_isSome] at present
    by_contra none
    rcases known with rfl | rfl
    · simp [tracks.lifecycleCRD, none] at present
    · simp [tracks.lifecycleDef, none] at present
  have gone : rest.lookup name = none := by simp [left name]
  have still : State.created ⟨rest, state.history ++ [(.delete, name)]⟩ = true := by
    simpa [State.created] using created
  have there := refines.lifecycle still
  rcases known with rfl | rfl
  · cases gone.symm.trans there.1
  · cases gone.symm.trans there.2

end Steps

/-- For every sequence of calls in which nothing fails: the listing is the set of
created pools and the lifecycle releases stay as installed in all states exactly
when no call touches the lifecycle names. -/
theorem refines_throughout_iff {calls : List Call} (clean : ∀ call ∈ calls, call.Clean) :
    (∀ before, before <+: calls → Refines (perform before)) ↔
      ∀ before call, before ++ [call] <+: calls → call.Spares (perform before).releases := by
  refine foldl_throughout_iff Tracks Refines
    (fun (state : State) (call : Call) => call.Spares state.releases) .empty
    (fun _ tracks => tracks.refines) ?_ ?_
  · intro state call member tracks spared
    have unfailing := clean call member
    cases call with
    | create faults name opts =>
        cases unfailing
        exact tracks.create spared
    | delete faults name =>
        cases unfailing
        exact tracks.delete spared
    | list faults order => exact tracks
  · intro state call member tracks refines
    have unfailing := clean call member
    cases call with
    | create faults name opts =>
        cases unfailing
        exact refines.create_spares
    | delete faults name =>
        cases unfailing
        exact refines.delete_spares tracks
    | list faults order => trivial

/-- Dashes, digits and the word itself are no lifecycle names. -/
def churnCalls : List Call :=
  [.create .clean "pool-1" [], .create .clean "lifecycle" [.countOpt 3], .create .clean "pool-1" [],
   .list .clean .stored, .delete .clean "pool-1", .delete .clean "pool-2"]

theorem refines_throughout_iff_churn :
    (∀ call ∈ churnCalls, call.Clean) ∧
      ∀ before, before <+: churnCalls → Refines (perform before) := by
  have clean : ∀ call ∈ churnCalls, call.Clean := by decide
  refine ⟨clean, (refines_throughout_iff clean).mpr ?_⟩
  intro before call reached
  have member : call ∈ churnCalls := reached.subset (by simp)
  simp only [churnCalls, List.mem_cons, List.not_mem_nil, or_false] at member
  rcases member with rfl | rfl | rfl | rfl | rfl | rfl
  · exact fun lead => absurd lead (by decide)
  · exact fun lead => absurd lead (by decide)
  · exact fun lead => absurd lead (by decide)
  · trivial
  · exact fun known => absurd known (by decide)
  · exact fun known => absurd known (by decide)

/-- One pool is created and never listed; one lifecycle release is deleted like a pool. -/
theorem lifecycleNames_not_refines :
    ¬Refines (perform [.create .clean "lifecycle-x" []]) ∧
      ¬Refines (perform [.create .clean "pool" [], .delete .clean "lifecycle-crd"]) := by
  constructor
  · intro refines
    have created : Refines (State.empty.perform (.create .clean "lifecycle-x" [])) := refines
    cases created.create_spares (by decide) with
    | inl invalid => exact invalid rfl
    | inr present => exact AList.notMem_empty _ present
  · intro refines
    have there := congrArg Option.isSome (refines.lifecycle (by decide)).1
    revert there
    decide

end Kperf.VirtualCluster
