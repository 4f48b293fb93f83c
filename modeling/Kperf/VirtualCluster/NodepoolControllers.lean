import Kperf.Library.Transition
import Kperf.VirtualCluster.NodepoolCalls

/-! Nodes and their controllers, for sequences of node pool calls in which any
step may fail. -/

set_option autoImplicit false

namespace Kperf.VirtualCluster

/-- Every pool whose nodes release exists has its controller release. -/
def Controlled (releases : Releases) : Prop :=
  ∀ name, ¬Reserved name → name ∈ releases → name ++ reservedNodepoolSuffixName ∈ releases

variable {releases next : Releases}

theorem Controlled.grows (controlled : Controlled releases) (grows : Grows releases next) :
    Controlled next := by
  intro name unreserved present
  exact grows.kept _ (controlled name unreserved ((grows.pools name unreserved).mp present))

def UninstallFault.removes : UninstallFault → Bool
  | .none => true
  | .failed removed _ => removed

theorem Helm.uninstall_kept {fault : UninstallFault} (stays : fault.removes = false)
    (name : String) : (Helm.uninstall fault name releases).1 = releases := by
  cases fault with
  | none => cases stays
  | failed removed message =>
      cases stays
      rfl

theorem Helm.notMem_uninstall {fault : UninstallFault} (removes : fault.removes = true)
    (name : String) (releases : Releases) : name ∉ (Helm.uninstall fault name releases).1 := by
  rw [← AList.lookup_eq_none]
  cases fault with
  | none => exact Helm.lookup_uninstall_none
  | failed removed message =>
      cases removes
      exact AList.lookup_erase _ _

theorem Helm.mem_uninstall_ne (fault : UninstallFault) {name other : String} (differs : other ≠ name) :
    other ∈ (Helm.uninstall fault name releases).1 ↔ other ∈ releases := by
  rw [← AList.lookup_isSome, ← AList.lookup_isSome, Helm.lookup_uninstall_ne fault differs]

theorem controller_inj {name other : String}
    (same : name ++ reservedNodepoolSuffixName = other ++ reservedNodepoolSuffixName) :
    name = other := by
  have lists := congrArg String.toList same
  rw [String.toList_append, String.toList_append] at lists
  exact String.toList_injective (List.append_cancel_right lists)

theorem ne_controller {other : String} (unreserved : ¬Reserved other) (name : String) :
    other ≠ name ++ reservedNodepoolSuffixName := by
  rintro rfl
  exact unreserved (.inl (Text.hasSuffix_append _ _))

theorem Controlled.insert {name : String} (controlled : Controlled releases)
    (own : name ++ reservedNodepoolSuffixName ∈ releases) (release : Release) :
    Controlled (releases.insert name release) := by
  intro other unreserved present
  rw [AList.mem_insert] at present ⊢
  right
  cases present with
  | inl same => exact same ▸ own
  | inr earlier => exact controlled other unreserved earlier

theorem Controlled.uninstall_nodes {name : String} (controlled : Controlled releases)
    (unreserved : ¬Reserved name) (fault : UninstallFault) :
    Controlled (Helm.uninstall fault name releases).1 := by
  intro other poolName present
  rw [Helm.mem_uninstall_ne fault (ne_controller unreserved other).symm]
  cases removes : fault.removes with
  | false =>
      rw [Helm.uninstall_kept removes] at present
      exact controlled other poolName present
  | true =>
      have differs : other ≠ name := fun same => Helm.notMem_uninstall removes name _ (same ▸ present)
      rw [Helm.mem_uninstall_ne fault differs] at present
      exact controlled other poolName present

theorem Controlled.uninstall_controller {name : String} (controlled : Controlled releases)
    (absent : name ∉ releases) (fault : UninstallFault) :
    Controlled (Helm.uninstall fault (name ++ reservedNodepoolSuffixName) releases).1 := by
  intro other poolName present
  rw [Helm.mem_uninstall_ne fault (ne_controller poolName name)] at present
  have differs : other ++ reservedNodepoolSuffixName ≠ name ++ reservedNodepoolSuffixName :=
    fun equal => absent (controller_inj equal ▸ present)
  rw [Helm.mem_uninstall_ne fault differs]
  exact controlled other poolName present

/-- Uninstalling a controller is safe exactly when its pool has no nodes or
the controller survives. -/
theorem Controlled.uninstall_iff {fault : UninstallFault} {name : String}
    (controlled : Controlled releases) (unreserved : ¬Reserved name) :
    Controlled (Helm.uninstall fault (name ++ reservedNodepoolSuffixName) releases).1 ↔
      ¬(name ∈ releases ∧ fault.removes = true) := by
  constructor
  · rintro kept ⟨present, removes⟩
    rw [← Helm.mem_uninstall_ne fault (ne_controller unreserved name)] at present
    exact Helm.notMem_uninstall removes _ _ (kept name unreserved present)
  · intro safe
    by_cases present : name ∈ releases
    · have stays : fault.removes = false := by simpa using fun removes => safe ⟨present, removes⟩
      rwa [Helm.uninstall_kept stays]
    · exact controlled.uninstall_controller present fault

/-- A `CreateNodepool` for a pool that is there, not seen because `Get` failed:
no step up to the controller fails, so that it is deployed again, the nodes are not,
and the cleanup uninstalls the controller of the running nodes. -/
def Call.StripsController (releases : Releases) : Call → Prop
  | .create faults name opts =>
      let cfg := NodepoolConfig.configure name opts
      (cfg.validate = .ok () ∧ name ∈ releases ∧ faults.newGetCli = none ∧ faults.getFails = true) ∧
        (faults.lifecycleCRD.Passes lifecycleCRDRelease (virtualnodeLifecycleCRDRelName ∈ releases) ∧
          faults.lifecycleDef.Passes lifecycleDefRelease
            (virtualnodeLifecycleDefRelName ∈ releases) ∧
          faults.controller.Passes cfg.nodeControllerRelease
            (cfg.nodeControllerHelmReleaseName ∈ releases)) ∧
        ¬faults.nodes.Passes cfg.nodeRelease (name ∈ releases) ∧ faults.cleanup.removes = true
  | .delete _ _ | .list _ _ => False

def Call.Unreserved : Call → Prop
  | .create _ name _ | .delete _ name => ¬Reserved name
  | .list _ _ => True

instance : DecidablePred Call.Unreserved
  | .create _ name _ | .delete _ name => inferInstanceAs (Decidable (¬Reserved name))
  | .list _ _ => .isTrue trivial

theorem controlled_createNodepool_iff {faults : CreateFaults} {name : String}
    {opts : List NodepoolOpt} (unreserved : ¬Reserved name) (controlled : Controlled releases) :
    Controlled (createNodepool faults name opts releases).1 ↔
      ¬(Call.create faults name opts).StripsController releases := by
  have grows := prepareNodepool_grows faults (.configure name opts) releases
  unfold createNodepool
  dsimp only
  split
  · rename_i prepared fault ran
    rw [ran] at grows
    refine iff_of_true (controlled.grows grows) fun strips => ?_
    obtain ⟨⟨valid, -, made, fails⟩, passes, -⟩ := strips
    cases ran.symm.trans (prepareNodepool_eq_ok.mpr ⟨⟨valid, made, fun _ => fails⟩, passes, rfl⟩)
  · rename_i prepared ran
    rw [ran] at grows
    obtain ⟨⟨valid, made, unseen⟩, passes, rfl⟩ := prepareNodepool_eq_ok.mp ran
    have pooled := grows.pools name unreserved
    split
    · rename_i fault failed
      have hindered : ¬faults.nodes.Passes (NodepoolConfig.configure name opts).nodeRelease
          (name ∈ releases) := by
        intro unhindered
        rw [← DeployFaults.passes_congr pooled] at unhindered
        cases failed.symm.trans (deployChart_eq_ok.mpr ⟨unhindered, rfl⟩)
      rw [NodepoolConfig.nodeControllerHelmReleaseName, NodepoolConfig.configure_name,
        (controlled.grows grows).uninstall_iff unreserved, pooled]
      refine not_congr ⟨?_, ?_⟩
      · rintro ⟨there, removes⟩
        exact ⟨⟨valid, there, made, unseen there⟩, passes, hindered, removes⟩
      · rintro ⟨⟨-, there, -⟩, -, -, removes⟩
        exact ⟨there, removes⟩
    · rename_i deployed ok
      obtain ⟨unhindered, rfl⟩ := deployChart_eq_ok.mp ok
      have present : name ++ reservedNodepoolSuffixName ∈
          (NodepoolConfig.configure name opts).prepared releases := by
        simp [NodepoolConfig.prepared, AList.mem_insert, NodepoolConfig.nodeControllerHelmReleaseName]
      refine iff_of_true ((controlled.grows grows).insert present _) fun strips => ?_
      obtain ⟨-, -, hindered, -⟩ := strips
      exact hindered ((DeployFaults.passes_congr pooled).mp unhindered)

theorem Controlled.deleteNodepool {name : String} (controlled : Controlled releases)
    (unreserved : ¬Reserved name) (faults : DeleteFaults) :
    Controlled (deleteNodepool faults name releases).1 := by
  unfold VirtualCluster.deleteNodepool
  dsimp only
  split
  · exact controlled
  · exact controlled
  · have nodes := controlled.uninstall_nodes unreserved faults.nodes
    rw [← Helm.delete_fst] at nodes
    split
    · rename_i rest fault ran
      rw [NodepoolConfig.nodeHelmReleaseName, NodepoolConfig.configure_name] at ran
      rwa [ran] at nodes
    · rename_i rest ran
      rw [NodepoolConfig.nodeHelmReleaseName, NodepoolConfig.configure_name] at ran
      rw [ran] at nodes
      have absent : name ∉ rest := by
        have removes : faults.nodes.removes = true := by
          rw [Helm.delete_ok ran]
          rfl
        have gone := Helm.notMem_uninstall removes name releases
        rwa [← Helm.delete_fst, ran] at gone
      rw [Helm.delete_fst]
      exact nodes.uninstall_controller absent faults.controller

/-- For every sequence of calls on pool names, with any steps failing: nodes have
their controllers in all states between calls exactly when no call uninstalls
the controller of a pool it did not see. -/
theorem controlled_throughout_iff {calls : List Call}
    (unreserved : ∀ call ∈ calls, call.Unreserved) :
    (∀ before, before <+: calls → Controlled (perform before).releases) ↔
      ∀ before call, before ++ [call] <+: calls →
        ¬call.StripsController (perform before).releases := by
  have exactly : ∀ state : State, ∀ call ∈ calls, Controlled state.releases →
      (Controlled (state.perform call).releases ↔ ¬call.StripsController state.releases) := by
    intro state call member controlled
    have named := unreserved call member
    cases call with
    | create faults name opts =>
        simpa [State.perform] using controlled_createNodepool_iff named controlled
    | delete faults name =>
        simpa [State.perform, Call.StripsController] using
          controlled.deleteNodepool named faults
    | list faults order => simpa [State.perform, Call.StripsController] using controlled
  refine foldl_throughout_iff (fun state : State => Controlled state.releases)
    (fun state : State => Controlled state.releases)
    (fun (state : State) (call : Call) => ¬call.StripsController state.releases) ?_ ?_ ?_ ?_
  · intro name _ present
    exact absurd present (AList.notMem_empty _)
  · exact fun _ controlled => controlled
  · exact fun state call member controlled => (exactly state call member controlled).mpr
  · exact fun state call member controlled => (exactly state call member controlled).mp

def DeployFaults.timedOut : DeployFaults :=
  { DeployFaults.clean with action := some "timed out waiting for the condition" }

/-- A pool is added, a second one fails and is cleaned up, the first is deleted. -/
def cleanedUpCalls : List Call :=
  [.create .clean "pool" [], .create { CreateFaults.clean with nodes := .timedOut } "other" [],
   .delete .clean "pool"]

theorem controlled_throughout_iff_cleanedUp :
    (∀ call ∈ cleanedUpCalls, call.Unreserved) ∧
      ∀ before, before <+: cleanedUpCalls → Controlled (perform before).releases := by
  have unreserved : ∀ call ∈ cleanedUpCalls, call.Unreserved := by decide
  refine ⟨unreserved, (controlled_throughout_iff unreserved).mpr ?_⟩
  intro before call reached strips
  have member : call ∈ cleanedUpCalls := reached.subset (by simp)
  simp only [cleanedUpCalls, List.mem_cons, List.not_mem_nil, or_false] at member
  rcases member with rfl | rfl | rfl
  · cases strips.1.2.2.2
  · cases strips.1.2.2.2
  · exact strips

/-- The second `CreateNodepool` does not see the pool, deploys its controller
again, fails to deploy its nodes and uninstalls the controller. -/
def unseenPoolCalls : List Call :=
  [.create .clean "pool" [],
   .create { CreateFaults.clean with getFails := true, nodes := .timedOut } "pool" []]

theorem unseenPool_not_controlled :
    (∀ call ∈ unseenPoolCalls, call.Unreserved) ∧
      ¬Controlled (perform unseenPoolCalls).releases := by
  constructor
  · decide
  · intro controlled
    have present := controlled "pool" (by decide) (by decide)
    revert present
    decide

end Kperf.VirtualCluster
