import Kperf.VirtualCluster.Nodepool

/-! What the steps of the node pool calls do to the releases, and sequences of
such calls. -/

set_option autoImplicit false

namespace Kperf.VirtualCluster

open Outcome

namespace NodepoolConfig

variable {cfg : NodepoolConfig}

theorem validate_eq_ok : cfg.validate = .ok () ↔
    (0 < cfg.count ∧ 0 < cfg.cpu ∧ 0 < cfg.memory) ∧ 0 < cfg.maxPods ∧ cfg.name ≠ "" ∧
      Text.hasSuffix cfg.name reservedNodepoolSuffixName = false := by
  simp only [validate, guard_eq_ok, and_true, Bool.not_eq_true, not_or, Int.not_le]

@[simp] theorem hasSuffix_nodeControllerHelmReleaseName :
    Text.hasSuffix cfg.nodeControllerHelmReleaseName reservedNodepoolSuffixName = true :=
  Text.hasSuffix_append _ _

end NodepoolConfig

/-- A name that no pool can have. -/
def Reserved (name : String) : Prop :=
  Text.hasSuffix name reservedNodepoolSuffixName = true ∨
    Text.hasPrefix name reservedLifecyclePrefixName = true

instance (name : String) : Decidable (Reserved name) := inferInstanceAs (Decidable (_ ∨ _))

theorem reserved_controller (cfg : NodepoolConfig) : Reserved cfg.nodeControllerHelmReleaseName :=
  .inl cfg.hasSuffix_nodeControllerHelmReleaseName

theorem reserved_lifecycleCRD : Reserved virtualnodeLifecycleCRDRelName := .inr (by decide)

theorem reserved_lifecycleDef : Reserved virtualnodeLifecycleDefRelName := .inr (by decide)

/-! What each step of a call does to the releases. -/

section Steps

variable {deployment : DeployFaults} {name : String} {release : Release}
variable {releases next : Releases}

theorem check_bind_eq_ok {α : Type} {context : String} {error : Option String}
    {later : Unit → Outcome α} {value : α} :
    (check context error >>= later) = .ok value ↔ error = none ∧ later () = .ok value := by
  rw [bind_eq_ok]
  constructor
  · rintro ⟨⟨⟩, passed, continued⟩
    exact ⟨check_eq_ok.mp passed, continued⟩
  · rintro ⟨passed, continued⟩
    exact ⟨(), check_eq_ok.mpr passed, continued⟩

theorem Helm.deploy_eq_ok : Helm.deploy deployment name release releases = .ok next ↔
    deployment.initValues = none ∧ (name ∈ releases ∨ deployment.historyFails = false) ∧
      deployment.action = none ∧ next = releases.insert name release := by
  have done : (.ok (releases.insert name release) : Outcome Releases) = .ok next ↔
      next = releases.insert name release :=
    ⟨fun same => (Except.ok.inj same).symm, fun same => congrArg _ same.symm⟩
  rw [Helm.deploy, check_bind_eq_ok]
  refine and_congr_right fun _ => ?_
  by_cases present : name ∈ releases
  · rw [if_neg (fun absent => absent.1 present), if_pos present, check_bind_eq_ok, ← done]
    simp [present, pure, Except.pure]
  · cases history : deployment.historyFails with
    | false =>
        rw [if_pos ⟨present, rfl⟩, check_bind_eq_ok, ← done]
        simp [pure, Except.pure]
    | true =>
        rw [if_neg (by simp), if_neg present, check_bind_eq_ok]
        simp [present]

/-- No step of a deployment fails. A history that cannot be read is taken for one that is
there, so that a release which is not there is not installed. -/
structure DeployFaults.Passes (faults : DeployFaults) (release : Release) (present : Prop) :
    Prop where
  loadChart : faults.loadChart = none
  valuesAppliers : release.appliers ≠ [] → faults.valuesAppliers = none
  newReleaseCli : faults.newReleaseCli = none
  initValues : faults.initValues = none
  history : present ∨ faults.historyFails = false
  action : faults.action = none

theorem deployChart_eq_ok {loadContext deployContext : String} :
    deployChart deployment loadContext deployContext name release releases = .ok next ↔
      deployment.Passes release (name ∈ releases) ∧ next = releases.insert name release := by
  have values : (if release.appliers.isEmpty then none else deployment.valuesAppliers) = none ↔
      (release.appliers ≠ [] → deployment.valuesAppliers = none) := by
    cases release.appliers <;> simp
  rw [deployChart, check_bind_eq_ok, check_bind_eq_ok, check_bind_eq_ok, values, wrap_eq_ok,
    Helm.deploy_eq_ok]
  constructor
  · rintro ⟨loadChart, valuesAppliers, newReleaseCli, initValues, history, action, rfl⟩
    exact ⟨⟨loadChart, valuesAppliers, newReleaseCli, initValues, history, action⟩, rfl⟩
  · rintro ⟨passes, rfl⟩
    exact ⟨passes.loadChart, passes.valuesAppliers, passes.newReleaseCli, passes.initValues,
      passes.history, passes.action, rfl⟩

theorem DeployFaults.passes_congr {present other : Prop} (same : present ↔ other) :
    deployment.Passes release present ↔ deployment.Passes release other := by
  rw [same]

theorem deployChart_ok {loadContext deployContext : String}
    (deployed : deployChart deployment loadContext deployContext name release releases = .ok next) :
    next = releases.insert name release := (deployChart_eq_ok.mp deployed).2

theorem deployChart_clean (loadContext deployContext : String) :
    deployChart .clean loadContext deployContext name release releases =
      .ok (releases.insert name release) :=
  deployChart_eq_ok.mpr ⟨⟨rfl, fun _ => rfl, rfl, rfl, .inr rfl, rfl⟩, rfl⟩

theorem Helm.lookup_uninstall_ne (fault : UninstallFault) {other : String} (differs : other ≠ name) :
    (Helm.uninstall fault name releases).1.lookup other = releases.lookup other := by
  unfold Helm.uninstall
  cases fault with
  | none =>
      dsimp only
      split
      · exact AList.lookup_erase_ne differs
      · rfl
  | failed removed message =>
      cases removed with
      | true => exact AList.lookup_erase_ne differs
      | false => rfl

theorem Helm.lookup_uninstall_none : (Helm.uninstall .none name releases).1.lookup name = none := by
  unfold Helm.uninstall
  dsimp only
  split
  · exact AList.lookup_erase _ _
  · rename_i absent
    exact AList.lookup_eq_none.mpr absent

theorem Helm.delete_fst (fault : UninstallFault) :
    (Helm.delete fault name releases).1 = (Helm.uninstall fault name releases).1 := by
  unfold Helm.delete
  split <;> rename_i ran <;> rw [ran]

theorem Helm.delete_none :
    Helm.delete .none name releases = ((Helm.uninstall .none name releases).1, .ok ()) := by
  unfold Helm.delete Helm.uninstall
  dsimp only
  split_ifs <;> rfl

theorem Helm.delete_ok {fault : UninstallFault}
    (deleted : Helm.delete fault name releases = (next, .ok ())) : fault = .none := by
  cases fault with
  | none => rfl
  | failed removed message => simp [Helm.delete, Helm.uninstall, fail] at deleted

end Steps

/-- The releases once the lifecycle charts and the controller of a pool are deployed. -/
def NodepoolConfig.prepared (cfg : NodepoolConfig) (releases : Releases) : Releases :=
  ((releases.insert virtualnodeLifecycleCRDRelName lifecycleCRDRelease).insert
    virtualnodeLifecycleDefRelName lifecycleDefRelease).insert
      cfg.nodeControllerHelmReleaseName cfg.nodeControllerRelease

/-- Nothing happened but deployments under reserved names. -/
structure Grows (releases next : Releases) : Prop where
  pools : ∀ name, ¬Reserved name → (name ∈ next ↔ name ∈ releases)
  kept : ∀ name, name ∈ releases → name ∈ next

theorem Grows.refl (releases : Releases) : Grows releases releases :=
  ⟨fun _ _ => Iff.rfl, fun _ present => present⟩

theorem Grows.insert {releases next : Releases} {name : String} (grows : Grows releases next)
    (reserved : Reserved name) (release : Release) : Grows releases (next.insert name release) where
  pools other unreserved := by
    have differs : other ≠ name := fun same => unreserved (same ▸ reserved)
    rw [AList.mem_insert, ← grows.pools other unreserved]
    simp [differs]
  kept other present := by
    rw [AList.mem_insert]
    exact .inr (grows.kept other present)

section Prepare

variable {faults : CreateFaults} {cfg : NodepoolConfig} {releases next : Releases}

theorem prepared_grows (cfg : NodepoolConfig) (releases : Releases) :
    Grows releases (cfg.prepared releases) :=
  (((Grows.refl releases).insert reserved_lifecycleCRD _).insert reserved_lifecycleDef _).insert
    (reserved_controller cfg) _

theorem installNodeLifecycleDef_grows (crd definition : DeployFaults) (releases : Releases) :
    Grows releases (installNodeLifecycleDef crd definition releases).1 := by
  unfold installNodeLifecycleDef
  split
  · exact .refl releases
  · rename_i withCRD installed
    cases deployChart_ok (wrap_eq_ok.mp installed)
    split
    · exact (Grows.refl releases).insert reserved_lifecycleCRD _
    · rename_i withDef deployed
      cases deployChart_ok deployed
      exact ((Grows.refl releases).insert reserved_lifecycleCRD _).insert reserved_lifecycleDef _

theorem installNodeLifecycleDef_eq_ok {crd definition : DeployFaults} :
    installNodeLifecycleDef crd definition releases = (next, .ok ()) ↔
      crd.Passes lifecycleCRDRelease (virtualnodeLifecycleCRDRelName ∈ releases) ∧
      definition.Passes lifecycleDefRelease (virtualnodeLifecycleDefRelName ∈ releases) ∧
      next = (releases.insert virtualnodeLifecycleCRDRelName lifecycleCRDRelease).insert
        virtualnodeLifecycleDefRelName lifecycleDefRelease := by
  have other : virtualnodeLifecycleDefRelName ∈
      releases.insert virtualnodeLifecycleCRDRelName lifecycleCRDRelease ↔
        virtualnodeLifecycleDefRelName ∈ releases := by
    simp [AList.mem_insert, (by decide :
      virtualnodeLifecycleDefRelName ≠ virtualnodeLifecycleCRDRelName)]
  constructor
  · intro installed
    unfold installNodeLifecycleDef at installed
    split at installed
    · cases installed
    · rename_i withCRD first
      obtain ⟨crdPasses, rfl⟩ := deployChart_eq_ok.mp (wrap_eq_ok.mp first)
      split at installed
      · cases installed
      · rename_i withDef second
        cases installed
        obtain ⟨defPasses, rfl⟩ := deployChart_eq_ok.mp second
        exact ⟨crdPasses, (DeployFaults.passes_congr other).mp defPasses, rfl⟩
  · rintro ⟨crdPasses, defPasses, rfl⟩
    have first : installNodeLifecycleCRD crd releases = .ok _ :=
      deployChart_eq_ok.mpr ⟨crdPasses, rfl⟩
    have second := (DeployFaults.passes_congr other).mpr defPasses
    simp only [installNodeLifecycleDef, wrap_eq_ok.mpr first, deployChart_eq_ok.mpr ⟨second, rfl⟩]

theorem controller_ne_lifecycle (cfg : NodepoolConfig) :
    cfg.nodeControllerHelmReleaseName ≠ virtualnodeLifecycleCRDRelName ∧
      cfg.nodeControllerHelmReleaseName ≠ virtualnodeLifecycleDefRelName := by
  have ends := cfg.hasSuffix_nodeControllerHelmReleaseName
  constructor
  · intro same
    rw [same] at ends
    exact absurd ends (by decide)
  · intro same
    rw [same] at ends
    exact absurd ends (by decide)

/-- The controller gets deployed exactly if the configuration is valid, the pool is not
seen and no step fails. -/
theorem prepareNodepool_eq_ok : prepareNodepool faults cfg releases = (next, .ok ()) ↔
    (cfg.validate = .ok () ∧ faults.newGetCli = none ∧
      (cfg.name ∈ releases → faults.getFails = true)) ∧
    (faults.lifecycleCRD.Passes lifecycleCRDRelease (virtualnodeLifecycleCRDRelName ∈ releases) ∧
      faults.lifecycleDef.Passes lifecycleDefRelease (virtualnodeLifecycleDefRelName ∈ releases) ∧
      faults.controller.Passes cfg.nodeControllerRelease
        (cfg.nodeControllerHelmReleaseName ∈ releases)) ∧
    next = cfg.prepared releases := by
  have other : cfg.nodeControllerHelmReleaseName ∈
      (releases.insert virtualnodeLifecycleCRDRelName lifecycleCRDRelease).insert
        virtualnodeLifecycleDefRelName lifecycleDefRelease ↔
          cfg.nodeControllerHelmReleaseName ∈ releases := by
    simp [AList.mem_insert, controller_ne_lifecycle cfg]
  constructor
  · intro ran
    unfold prepareNodepool at ran
    split at ran
    · cases ran
    · cases ran
    · rename_i valid made
      split_ifs at ran with found
      · cases ran
      · have unseen : cfg.name ∈ releases → faults.getFails = true :=
          fun present => by simpa using fun passes => found ⟨present, passes⟩
        split at ran
        · cases wrap_eq_ok.mp (Prod.mk.inj ran).2
        · rename_i installed lifecycle
          obtain ⟨crd, definition, rfl⟩ := installNodeLifecycleDef_eq_ok.mp lifecycle
          split at ran
          · cases ran
          · rename_i controlled deployed
            cases ran
            obtain ⟨controller, rfl⟩ := deployChart_eq_ok.mp deployed
            exact ⟨⟨valid, check_eq_ok.mp made, unseen⟩,
              ⟨crd, definition, (DeployFaults.passes_congr other).mp controller⟩, rfl⟩
  · rintro ⟨⟨valid, made, unseen⟩, ⟨crd, definition, controller⟩, rfl⟩
    have unfound : ¬(cfg.nodeHelmReleaseName ∈ releases ∧ faults.getFails = false) := by
      rintro ⟨present, passes⟩
      rw [unseen present] at passes
      cases passes
    have lifecycle := installNodeLifecycleDef_eq_ok.mpr ⟨crd, definition, rfl⟩
    have deployed : createNodepoolController faults.controller cfg _ = .ok _ :=
      deployChart_eq_ok.mpr ⟨(DeployFaults.passes_congr other).mpr controller, rfl⟩
    simp only [prepareNodepool, valid, check_eq_ok.mpr made, if_neg unfound, lifecycle, deployed]
    rfl

theorem prepareNodepool_ok (ran : prepareNodepool faults cfg releases = (next, .ok ())) :
    cfg.validate = .ok () ∧ (cfg.name ∈ releases → faults.getFails = true) ∧
      next = cfg.prepared releases := by
  obtain ⟨⟨valid, -, unseen⟩, -, rfl⟩ := prepareNodepool_eq_ok.mp ran
  exact ⟨valid, unseen, rfl⟩

theorem prepareNodepool_grows (faults : CreateFaults) (cfg : NodepoolConfig) (releases : Releases) :
    Grows releases (prepareNodepool faults cfg releases).1 := by
  unfold prepareNodepool
  split
  · exact .refl releases
  · exact .refl releases
  · split_ifs
    · exact .refl releases
    · have lifecycle := installNodeLifecycleDef_grows faults.lifecycleCRD faults.lifecycleDef releases
      split
      · rename_i installed fault ran
        simpa [ran] using lifecycle
      · rename_i installed ran
        rw [ran] at lifecycle
        split
        · exact lifecycle
        · rename_i controlled deployed
          cases deployChart_ok deployed
          exact lifecycle.insert (reserved_controller cfg) _

end Prepare

/-! Sequences of calls. `history` records the calls that succeeded. -/

inductive Call where
  | create (faults : CreateFaults) (nodepoolName : String) (opts : List NodepoolOpt)
  | delete (faults : DeleteFaults) (nodepoolName : String)
  | list (faults : ListFaults) (order : RangeOrder)

inductive Operation where
  | create
  | delete
  deriving DecidableEq, Repr

structure State where
  releases : Releases
  history : List (Operation × String)

def State.empty : State := ⟨∅, []⟩

def State.settle (state : State) (operation : Operation) (name : String) :
    Releases × Outcome Unit → State
  | (releases, .ok ()) => ⟨releases, state.history ++ [(operation, name)]⟩
  | (releases, .error _) => { state with releases := releases }

def State.perform (state : State) : Call → State
  | .create faults name opts =>
      state.settle .create name (createNodepool faults name opts state.releases)
  | .delete faults name => state.settle .delete name (deleteNodepool faults name state.releases)
  | .list _ _ => state

def perform (calls : List Call) : State := calls.foldl State.perform .empty

@[simp] theorem State.settle_releases (state : State) (operation : Operation) (name : String)
    (result : Releases × Outcome Unit) :
    (state.settle operation name result).releases = result.1 := by
  obtain ⟨releases, outcome⟩ := result
  cases outcome with
  | ok returned => rfl
  | error fault => rfl

end Kperf.VirtualCluster
