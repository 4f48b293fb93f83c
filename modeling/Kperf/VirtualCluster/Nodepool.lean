import Kperf.Library.Map
import Kperf.Library.Outcome
import Kperf.Library.Text

/-! Node pools as Helm releases. One namespace holds the nodes release and the
controller release of every pool beside the two lifecycle releases, told apart
by their names only. Helm is a map from names to releases: a deploy puts a
release or fails and changes nothing, an uninstall removes its release or
changes nothing. What each step of a call meets is part of its input. -/

set_option autoImplicit false

namespace Kperf.VirtualCluster

open Outcome

def virtualnodeChartName : String := "virtualcluster/nodes"

def virtualnodeControllerChartName : String := "virtualcluster/nodecontrollers"

def virtualnodeLifecycleCRDChartName : String := "virtualcluster/lifecycle-crd"

def virtualnodeLifecycleDefChartName : String := "virtualcluster/lifecycle-def"

def virtualnodeLifecycleCRDRelName : String := "lifecycle-crd"

def virtualnodeLifecycleDefRelName : String := "lifecycle-def"

def reservedNodepoolSuffixName : String := "-controller"

def reservedLifecyclePrefixName : String := "lifecycle-"

structure NodepoolConfig where
  name : String
  count : Int
  cpu : Int
  memory : Int
  maxPods : Int
  labels : StringMap String
  sharedProviderID : String
  nodeSelectors : StringMap (List String)

def defaultNodepoolCfg : NodepoolConfig where
  name := ""
  count := 10
  cpu := 8
  memory := 16
  maxPods := 110
  labels := ∅
  sharedProviderID := ""
  nodeSelectors := ∅

inductive NodepoolOpt where
  | countOpt (count : Int)
  | cpuOpt (cpu : Int)
  | memoryOpt (memory : Int)
  | maxPodsOpt (maxPods : Int)
  | labelsOpt (labels : StringMap String)
  | nodeControllerAffinity (nodeSelectors : StringMap (List String))
  | sharedProviderID (providerID : String)

def NodepoolOpt.apply (cfg : NodepoolConfig) : NodepoolOpt → NodepoolConfig
  | .countOpt count => { cfg with count := count }
  | .cpuOpt cpu => { cfg with cpu := cpu }
  | .memoryOpt memory => { cfg with memory := memory }
  | .maxPodsOpt maxPods => { cfg with maxPods := maxPods }
  | .labelsOpt labels => { cfg with labels := labels }
  | .nodeControllerAffinity nodeSelectors => { cfg with nodeSelectors := nodeSelectors }
  | .sharedProviderID providerID => { cfg with sharedProviderID := providerID }

namespace NodepoolConfig

/-- The configuration of a call: the defaults, changed by the options in order. -/
def configure (nodepoolName : String) (opts : List NodepoolOpt) : NodepoolConfig :=
  { opts.foldl NodepoolOpt.apply defaultNodepoolCfg with name := nodepoolName }

@[simp] theorem configure_name (nodepoolName : String) (opts : List NodepoolOpt) :
    (configure nodepoolName opts).name = nodepoolName := rfl

def validate (cfg : NodepoolConfig) : Outcome Unit :=
  if cfg.count ≤ 0 ∨ cfg.cpu ≤ 0 ∨ cfg.memory ≤ 0 then
    fail ("invalid count=" ++ toString cfg.count ++ " or cpu=" ++ toString cfg.cpu ++
      " or memory=" ++ toString cfg.memory)
  else if cfg.maxPods ≤ 0 then
    fail ("required max pods > 0, but got " ++ toString cfg.maxPods)
  else if cfg.name = "" then fail "required non-empty name"
  else if Text.hasSuffix cfg.name reservedNodepoolSuffixName then
    fail ("name can't contain " ++ reservedNodepoolSuffixName ++ " as suffix")
  else .ok ()

def nodeHelmReleaseName (cfg : NodepoolConfig) : String := cfg.name

def nodeControllerHelmReleaseName (cfg : NodepoolConfig) : String :=
  cfg.name ++ reservedNodepoolSuffixName

end NodepoolConfig

/-- What is set over a chart's own values: assignments in Helm's `--set`
syntax, or one map put under its key. -/
inductive ValuesApplier where
  | stringPath (values : List String)
  | nodeLabels (labels : StringMap String)
  | nodeSelectors (nodeSelectors : StringMap (List String))

structure Release where
  chart : String
  appliers : List ValuesApplier

def NodepoolConfig.toNodeHelmValuesAppliers (cfg : NodepoolConfig) : List ValuesApplier :=
  [.stringPath
      ["name=" ++ cfg.name,
       "cpu=" ++ toString cfg.cpu,
       "memory=" ++ toString cfg.memory,
       "replicas=" ++ toString cfg.count,
       "maxPods=" ++ toString cfg.maxPods,
       "sharedProviderID=" ++ cfg.sharedProviderID],
   .nodeLabels cfg.labels]

def NodepoolConfig.toNodeControllerHelmValuesAppliers (cfg : NodepoolConfig) :
    List ValuesApplier :=
  [.stringPath ["name=" ++ cfg.name, "replicas=" ++ toString cfg.count],
   .nodeSelectors cfg.nodeSelectors]

def NodepoolConfig.nodeRelease (cfg : NodepoolConfig) : Release :=
  ⟨virtualnodeChartName, cfg.toNodeHelmValuesAppliers⟩

def NodepoolConfig.nodeControllerRelease (cfg : NodepoolConfig) : Release :=
  ⟨virtualnodeControllerChartName, cfg.toNodeControllerHelmValuesAppliers⟩

def lifecycleCRDRelease : Release := ⟨virtualnodeLifecycleCRDChartName, []⟩

def lifecycleDefRelease : Release := ⟨virtualnodeLifecycleDefChartName, []⟩

abbrev Releases := StringMap Release

/-- What one deployment of a chart meets: the error of each step, if any.
`historyFails` is an error of the history other than that there is none. -/
structure DeployFaults where
  loadChart : Option String
  valuesAppliers : Option String
  newReleaseCli : Option String
  initValues : Option String
  historyFails : Bool
  action : Option String
  deriving DecidableEq, Repr

def DeployFaults.clean : DeployFaults := ⟨none, none, none, none, false, none⟩

/-- What one uninstall meets. A failure may come before or after the release
is gone. -/
inductive UninstallFault where
  | none
  | failed (removed : Bool) (message : String)
  deriving DecidableEq, Repr

def check (context : String) : Option String → Outcome Unit
  | some message => fail (context ++ message)
  | none => .ok ()

@[simp] theorem check_eq_ok {context : String} {error : Option String} :
    check context error = .ok () ↔ error = none := by
  cases error with
  | none => simp [check]
  | some message => simp [check, fail]

namespace Helm

/-- `ReleaseCli.Deploy`. Only a history that says the release is not there leads
to an install; an upgrade of a release that is not there fails. -/
def deploy (faults : DeployFaults) (name : String) (release : Release) (releases : Releases) :
    Outcome Releases := do
  check "" faults.initValues
  if name ∉ releases ∧ faults.historyFails = false then
    check ("failed to install that release " ++ name ++ ": ") faults.action
  else
    check ("failed to upgrade that release " ++ name ++ ": ")
      (if name ∈ releases then faults.action
       else some (Format.quote name ++ " has no deployed releases"))
  return releases.insert name release

inductive UninstallResult where
  | removed
  | notFound
  | failed (message : String)
  deriving DecidableEq, Repr

/-- `ReleaseCli.Uninstall`. -/
def uninstall (fault : UninstallFault) (name : String) (releases : Releases) :
    Releases × UninstallResult :=
  match fault with
  | .failed removed message =>
      (if removed then releases.erase name else releases, .failed message)
  | .none =>
      if name ∈ releases then (releases.erase name, .removed) else (releases, .notFound)

/-- `DeleteCli.Delete`: a release that is not there counts as deleted. -/
def delete (fault : UninstallFault) (name : String) (releases : Releases) :
    Releases × Outcome Unit :=
  match uninstall fault name releases with
  | (rest, .failed message) => (rest, fail message)
  | (rest, .removed) | (rest, .notFound) => (rest, .ok ())

end Helm

/-- The steps that every chart goes through: load it, build its values, make a
release client and deploy. -/
def deployChart (faults : DeployFaults) (loadContext deployContext : String) (name : String)
    (release : Release) (releases : Releases) : Outcome Releases := do
  check loadContext faults.loadChart
  check "" (if release.appliers.isEmpty then none else faults.valuesAppliers)
  check "failed to create helm release client: " faults.newReleaseCli
  wrap deployContext (Helm.deploy faults name release releases)

def installNodeLifecycleCRD (faults : DeployFaults) (releases : Releases) : Outcome Releases :=
  deployChart faults "failed to load virtual node lifecycle CRD chart: " ""
    virtualnodeLifecycleCRDRelName lifecycleCRDRelease releases

/-- The releases after the call come with its result: when the second chart
fails, the first one stays. -/
def installNodeLifecycleDef (crd definition : DeployFaults) (releases : Releases) :
    Releases × Outcome Unit :=
  match wrap "failed to install node lifecycle CRD: " (installNodeLifecycleCRD crd releases) with
  | .error fault => (releases, .error fault)
  | .ok withCRD =>
      match deployChart definition "failed to load virtual node lifecycle def chart: " ""
          virtualnodeLifecycleDefRelName lifecycleDefRelease withCRD with
      | .error fault => (withCRD, .error fault)
      | .ok withDef => (withDef, .ok ())

def createNodepoolController (faults : DeployFaults) (cfg : NodepoolConfig)
    (releases : Releases) : Outcome Releases :=
  deployChart faults "failed to load virtual node controller chart: "
    "failed to deploy virtual node controller: " cfg.nodeControllerHelmReleaseName
    cfg.nodeControllerRelease releases

structure CreateFaults where
  newGetCli : Option String
  /-- `Get` fails although the release is there. -/
  getFails : Bool
  lifecycleCRD : DeployFaults
  lifecycleDef : DeployFaults
  controller : DeployFaults
  nodes : DeployFaults
  cleanup : UninstallFault
  deriving DecidableEq, Repr

def CreateFaults.clean : CreateFaults := ⟨none, false, .clean, .clean, .clean, .clean, .none⟩

/-- `CreateNodepool` up to the deployed controller. Every error of `Get` passes
for a pool that is not there. -/
def prepareNodepool (faults : CreateFaults) (cfg : NodepoolConfig) (releases : Releases) :
    Releases × Outcome Unit :=
  match cfg.validate, check "failed to create helm get client: " faults.newGetCli with
  | .error fault, _ | .ok (), .error fault => (releases, .error fault)
  | .ok (), .ok () =>
      if cfg.nodeHelmReleaseName ∈ releases ∧ faults.getFails = false then
        (releases, fail ("nodepool " ++ cfg.nodeHelmReleaseName ++ " already exists"))
      else
        match installNodeLifecycleDef faults.lifecycleCRD faults.lifecycleDef releases with
        | (installed, .error fault) =>
            (installed, wrap "failed to install node lifecycle def: " (.error fault))
        | (installed, .ok ()) =>
            match createNodepoolController faults.controller cfg installed with
            | .error fault => (installed, .error fault)
            | .ok controlled => (controlled, .ok ())

/-- A failure after the controller is deployed uninstalls it again, and the
error of that is dropped. -/
def createNodepool (faults : CreateFaults) (nodepoolName : String) (opts : List NodepoolOpt)
    (releases : Releases) : Releases × Outcome Unit :=
  let cfg := NodepoolConfig.configure nodepoolName opts
  match prepareNodepool faults cfg releases with
  | (prepared, .error fault) => (prepared, .error fault)
  | (controlled, .ok ()) =>
      match deployChart faults.nodes "failed to load virtual node chart: " ""
          cfg.nodeHelmReleaseName cfg.nodeRelease controlled with
      | .error fault =>
          ((Helm.uninstall faults.cleanup cfg.nodeControllerHelmReleaseName controlled).1,
            .error fault)
      | .ok deployed => (deployed, .ok ())

structure DeleteFaults where
  newDeleteCli : Option String
  nodes : UninstallFault
  controller : UninstallFault
  deriving DecidableEq, Repr

def DeleteFaults.clean : DeleteFaults := ⟨none, .none, .none⟩

def deleteNodepool (faults : DeleteFaults) (nodepoolName : String) (releases : Releases) :
    Releases × Outcome Unit :=
  let cfg := NodepoolConfig.configure nodepoolName []
  match cfg.validate, check "failed to create helm delete client: " faults.newDeleteCli with
  | .error fault, _ | .ok (), .error fault => (releases, .error fault)
  | .ok (), .ok () =>
      match Helm.delete faults.nodes cfg.nodeHelmReleaseName releases with
      | (rest, .error fault) =>
          (rest, wrap "failed to cleanup virtual nodes: " (.error fault))
      | (rest, .ok ()) =>
          let (final, outcome) := Helm.delete faults.controller
            cfg.nodeControllerHelmReleaseName rest
          (final, wrap "failed to cleanup virtual node controller: " outcome)

structure ListFaults where
  newListCli : Option String
  list : Option String
  deriving DecidableEq, Repr

def ListFaults.clean : ListFaults := ⟨none, none⟩

def listNodepools (faults : ListFaults) (order : RangeOrder) (releases : Releases) :
    Outcome (List (Sigma fun _ : String => Release)) := do
  check "failed to create helm list client: " faults.newListCli
  check "failed to list nodepool: " faults.list
  return (order.visit releases).filter fun entry =>
    !(Text.hasSuffix entry.1 reservedNodepoolSuffixName ||
      Text.hasPrefix entry.1 reservedLifecyclePrefixName)

end Kperf.VirtualCluster
