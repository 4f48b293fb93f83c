import Kperf.VirtualCluster.NodepoolControllers

/-! Which releases one node pool call leaves, whatever its steps meet: those of its own
pool, and those of all others. -/

set_option autoImplicit false

namespace Kperf.VirtualCluster

open Outcome

/-- Both releases of a pool are there. -/
def Deployed (name : String) (releases : Releases) : Prop :=
  name ∈ releases ∧ name ++ reservedNodepoolSuffixName ∈ releases

def Absent (name : String) (releases : Releases) : Prop :=
  name ∉ releases ∧ name ++ reservedNodepoolSuffixName ∉ releases

/-- A release that calls for one pool have nothing to do with. -/
structure Foreign (name other : String) : Prop where
  nodes : other ≠ name
  controller : other ≠ name ++ reservedNodepoolSuffixName
  lifecycleCRD : other ≠ virtualnodeLifecycleCRDRelName
  lifecycleDef : other ≠ virtualnodeLifecycleDefRelName

/-- Nothing happened but deployments of the lifecycle charts. -/
def OnlyLifecycle (releases next : Releases) : Prop :=
  ∀ other, other ≠ virtualnodeLifecycleCRDRelName → other ≠ virtualnodeLifecycleDefRelName →
    next.lookup other = releases.lookup other

variable {releases next : Releases} {name other : String} {opts : List NodepoolOpt}

theorem mem_iff_of_lookup (same : next.lookup other = releases.lookup other) :
    other ∈ next ↔ other ∈ releases := by
  rw [← AList.lookup_isSome, ← AList.lookup_isSome, same]

theorem installNodeLifecycleDef_only (crd definition : DeployFaults) (releases : Releases) :
    OnlyLifecycle releases (installNodeLifecycleDef crd definition releases).1 := by
  intro other notCRD notDef
  unfold installNodeLifecycleDef
  split
  · rfl
  · rename_i withCRD installed
    cases deployChart_ok (wrap_eq_ok.mp installed)
    split
    · exact AList.lookup_insert_ne notCRD
    · rename_i withDef deployed
      cases deployChart_ok deployed
      rw [AList.lookup_insert_ne notDef, AList.lookup_insert_ne notCRD]

theorem prepareNodepool_error {faults : CreateFaults} {cfg : NodepoolConfig} {fault : Fault}
    (ran : prepareNodepool faults cfg releases = (next, .error fault)) :
    OnlyLifecycle releases next := by
  unfold prepareNodepool at ran
  split at ran
  · cases ran
    exact fun _ _ _ => rfl
  · cases ran
    exact fun _ _ _ => rfl
  · split_ifs at ran
    · cases ran
      exact fun _ _ _ => rfl
    · have lifecycle := installNodeLifecycleDef_only faults.lifecycleCRD faults.lifecycleDef releases
      split at ran
      · rename_i installed failure installation
        rw [installation] at lifecycle
        cases (Prod.mk.inj ran).1
        exact lifecycle
      · rename_i installed installation
        rw [installation] at lifecycle
        split at ran
        · cases ran
          exact lifecycle
        · cases ran

/-- What a `CreateNodepool` comes to: it fails before its controller, it fails after it
and cleans up, or the pool is there. -/
theorem createNodepool_cases (faults : CreateFaults) (name : String) (opts : List NodepoolOpt)
    (releases : Releases) :
    let cfg := NodepoolConfig.configure name opts
    (∃ next fault, createNodepool faults name opts releases = (next, .error fault) ∧
      OnlyLifecycle releases next) ∨
    (∃ fault, createNodepool faults name opts releases =
      ((Helm.uninstall faults.cleanup (name ++ reservedNodepoolSuffixName)
        (cfg.prepared releases)).1, .error fault)) ∨
    createNodepool faults name opts releases =
      ((cfg.prepared releases).insert name cfg.nodeRelease, .ok ()) := by
  intro cfg
  unfold createNodepool
  dsimp only
  split
  · rename_i next fault ran
    exact .inl ⟨next, fault, rfl, prepareNodepool_error ran⟩
  · rename_i prepared ran
    obtain ⟨-, -, rfl⟩ := prepareNodepool_ok ran
    split
    · rename_i fault failed
      exact .inr (.inl ⟨fault, rfl⟩)
    · rename_i deployed ok
      cases deployChart_ok ok
      exact .inr (.inr rfl)

theorem prepared_foreign (foreign : Foreign name other) :
    ((NodepoolConfig.configure name opts).prepared releases).lookup other =
      releases.lookup other := by
  rw [NodepoolConfig.prepared, NodepoolConfig.nodeControllerHelmReleaseName,
    NodepoolConfig.configure_name, AList.lookup_insert_ne foreign.controller,
    AList.lookup_insert_ne foreign.lifecycleDef, AList.lookup_insert_ne foreign.lifecycleCRD]

theorem createNodepool_foreign {faults : CreateFaults} {outcome : Outcome Unit}
    (ran : createNodepool faults name opts releases = (next, outcome))
    (foreign : Foreign name other) : next.lookup other = releases.lookup other := by
  obtain ⟨failed, fault, same, only⟩ | ⟨fault, same⟩ | same :=
    createNodepool_cases faults name opts releases
  all_goals
    rw [same] at ran
    cases ran
  · exact only other foreign.lifecycleCRD foreign.lifecycleDef
  · rw [Helm.lookup_uninstall_ne faults.cleanup foreign.controller, prepared_foreign foreign]
  · rw [AList.lookup_insert_ne foreign.nodes, prepared_foreign foreign]

theorem createNodepool_ok {faults : CreateFaults}
    (ran : createNodepool faults name opts releases = (next, .ok ())) : Deployed name next := by
  obtain ⟨failed, fault, same, -⟩ | ⟨fault, same⟩ | same :=
    createNodepool_cases faults name opts releases
  all_goals
    rw [same] at ran
    cases ran
  simp [Deployed, NodepoolConfig.prepared, NodepoolConfig.nodeControllerHelmReleaseName]

/-- A pool that could not be created leaves nothing, if its cleanup works. -/
theorem createNodepool_error {faults : CreateFaults} {fault : Fault} (unreserved : ¬Reserved name)
    (absent : Absent name releases) (removes : faults.cleanup.removes = true)
    (ran : createNodepool faults name opts releases = (next, .error fault)) : Absent name next := by
  have notCRD : name ≠ virtualnodeLifecycleCRDRelName := by
    rintro rfl
    exact unreserved reserved_lifecycleCRD
  have notDef : name ≠ virtualnodeLifecycleDefRelName := by
    rintro rfl
    exact unreserved reserved_lifecycleDef
  have controllerNotCRD : name ++ reservedNodepoolSuffixName ≠ virtualnodeLifecycleCRDRelName := by
    intro same
    have suffix := Text.hasSuffix_append name reservedNodepoolSuffixName
    rw [same] at suffix
    exact absurd suffix (by decide)
  have controllerNotDef : name ++ reservedNodepoolSuffixName ≠ virtualnodeLifecycleDefRelName := by
    intro same
    have suffix := Text.hasSuffix_append name reservedNodepoolSuffixName
    rw [same] at suffix
    exact absurd suffix (by decide)
  obtain ⟨failed, failure, same, only⟩ | ⟨failure, same⟩ | same :=
    createNodepool_cases faults name opts releases
  all_goals
    rw [same] at ran
    cases ran
  · rw [Absent, mem_iff_of_lookup (only _ notCRD notDef),
      mem_iff_of_lookup (only _ controllerNotCRD controllerNotDef)]
    exact absent
  · refine ⟨?_, Helm.notMem_uninstall removes _ _⟩
    rw [Helm.mem_uninstall_ne faults.cleanup (ne_controller unreserved name),
      (prepared_grows _ releases).pools name unreserved]
    exact absent.1

theorem deleteNodepool_foreign {faults : DeleteFaults} {outcome : Outcome Unit}
    (ran : deleteNodepool faults name releases = (next, outcome))
    (foreign : Foreign name other) : next.lookup other = releases.lookup other := by
  have final : next = (deleteNodepool faults name releases).1 := by rw [ran]
  rw [final]
  unfold deleteNodepool
  dsimp only
  split
  · rfl
  · rfl
  · have nodes : (Helm.delete faults.nodes name releases).1.lookup other = releases.lookup other := by
      rw [Helm.delete_fst, Helm.lookup_uninstall_ne faults.nodes foreign.nodes]
    split
    · rename_i rest fault ran
      rw [NodepoolConfig.nodeHelmReleaseName, NodepoolConfig.configure_name] at ran
      rwa [ran] at nodes
    · rename_i rest ran
      rw [NodepoolConfig.nodeHelmReleaseName, NodepoolConfig.configure_name] at ran
      rw [ran] at nodes
      rw [Helm.delete_fst, ← nodes]
      exact Helm.lookup_uninstall_ne faults.controller foreign.controller

theorem deleteNodepool_ok {faults : DeleteFaults} (unreserved : ¬Reserved name)
    (ran : deleteNodepool faults name releases = (next, .ok ())) : Absent name next := by
  unfold deleteNodepool at ran
  dsimp only at ran
  split at ran
  · cases ran
  · cases ran
  · split at ran
    · cases wrap_eq_ok.mp (Prod.mk.inj ran).2
    · rename_i rest deleted
      rw [NodepoolConfig.nodeHelmReleaseName, NodepoolConfig.configure_name] at deleted
      have nodesGone : name ∉ rest := by
        have removes : faults.nodes.removes = true := by rw [Helm.delete_ok deleted, UninstallFault.removes]
        have gone := Helm.notMem_uninstall removes name releases
        rwa [← Helm.delete_fst, deleted] at gone
      obtain ⟨final, outcome⟩ := Prod.mk.inj ran
      have cleaned : Helm.delete faults.controller (name ++ reservedNodepoolSuffixName) rest =
          (next, .ok ()) := Prod.ext final (wrap_eq_ok.mp outcome)
      have removes : faults.controller.removes = true := by
        rw [Helm.delete_ok cleaned, UninstallFault.removes]
      rw [← final, Absent]
      dsimp only [NodepoolConfig.nodeControllerHelmReleaseName, NodepoolConfig.configure_name]
      rw [Helm.delete_fst, Helm.mem_uninstall_ne faults.controller (ne_controller unreserved name)]
      exact ⟨nodesGone, Helm.notMem_uninstall removes _ _⟩

/-- A pool under a name that `CreateNodepool` accepts can always be deleted. -/
theorem deleteNodepool_clean (named : name ≠ "") (unreserved : ¬Reserved name)
    (releases : Releases) : (deleteNodepool .clean name releases).2 = .ok () := by
  have valid : (NodepoolConfig.configure name []).validate = .ok () := by
    rw [NodepoolConfig.validate_eq_ok]
    have sizes : (0 < defaultNodepoolCfg.count ∧ 0 < defaultNodepoolCfg.cpu ∧
        0 < defaultNodepoolCfg.memory) ∧ 0 < defaultNodepoolCfg.maxPods := by decide
    refine ⟨sizes.1, sizes.2, named, ?_⟩
    simpa using fun suffix => unreserved (.inl suffix)
  unfold deleteNodepool
  dsimp only [DeleteFaults.clean]
  rw [valid, Helm.delete_none]
  dsimp only [check]
  rw [Helm.delete_none]
  rfl

end Kperf.VirtualCluster
