import Kperf.Helmcli.ChartValues
import Kperf.Library.Decimal
import Kperf.VirtualCluster.NodepoolCalls

/-! The Nodes and the controller pods that the two charts of a pool render to, and the
pools that `nodepool batch-add` makes. The templates write documents in block style with
the values pasted in, without quotes but for the keys of the selectors; comments of the
templates are left out. What YAML reads from the text is what is created. -/

set_option autoImplicit false

namespace Kperf.VirtualCluster

open Outcome
open Helmcli (Leaf Values HelmLibrary isTrue rangeMap rangeList)
open Yaml (Block)

def virtualnodeReleaseNamespace : String := "virtualnodes-kperf-io"

/-! The values of a release. -/

section Values

def leaves {V : Type} (leaf : V → Leaf) (map : StringMap V) : ValueTree.Entries String Leaf :=
  (map.mapValues fun value => .leaf (leaf value)).entries

theorem wellFormed_leaves {V : Type} (leaf : V → Leaf) (map : StringMap V) :
    (ValueTree.map (leaves leaf map)).WellFormed := by
  refine .map (map.mapValues _).nodupKeys fun entry member => ?_
  obtain ⟨_, _, rfl⟩ := List.mem_map.mp member
  exact .leaf

/-- One map under its key, as `YAMLValuesApplier` decodes it. -/
def under {V : Type} (key : String) (leaf : V → Leaf) (map : StringMap V) : Values Leaf where
  entries := [⟨key, .map (leaves leaf map)⟩]
  wellFormed := .cons List.not_mem_nil (wellFormed_leaves leaf map) .nil

/-- `manifests/virtualcluster/nodes/values.yaml`. -/
def nodesChartValues : Values Leaf where
  entries := [⟨"name", .leaf (.text "vc-testing")⟩, ⟨"nodeLabels", .map []⟩,
    ⟨"replicas", .leaf (.float 0)⟩, ⟨"cpu", .leaf (.float 0)⟩, ⟨"memory", .leaf (.float 0)⟩,
    ⟨"maxPods", .leaf (.float 0)⟩]
  wellFormed := .cons (by decide) .leaf (.cons (by decide) .nil (.cons (by decide) .leaf
    (.cons (by decide) .leaf (.cons (by decide) .leaf (.cons (by decide) .leaf .nil)))))

/-- `manifests/virtualcluster/nodecontrollers/values.yaml`. -/
def nodecontrollersChartValues : Values Leaf where
  entries := [⟨"name", .leaf (.text "vc-testing")⟩, ⟨"nodeSelectors", .map []⟩,
    ⟨"replicas", .leaf (.float 0)⟩]
  wellFormed := .cons (by decide) .leaf (.cons (by decide) .nil (.cons (by decide) .leaf .nil))

variable (helm : HelmLibrary)

def ValuesApplier.apply (values : Values Leaf) : ValuesApplier → Option (Values Leaf)
  | .stringPath assignments =>
      assignments.foldlM (fun values assignment => helm.parseInto assignment values) values
  | .nodeLabels labels => some (values.applyValues (under "nodeLabels" .text labels))
  | .nodeSelectors selectors =>
      some (values.applyValues
        (under "nodeSelectors" (fun items => .list (items.map .text)) selectors))

/-- `NewReleaseCli` applies to a copy of the chart's values, and `Deploy` copies what
comes out once more. -/
def releaseValues (defaults : Values Leaf) (release : Release) : Option (Values Leaf) :=
  (release.appliers.foldlM (ValuesApplier.apply helm) defaults.copyValues).map Values.copyValues

end Values

/-! The templates. -/

section Templates

variable (helm : HelmLibrary) (values : Values Leaf)

/-- `.Values.key`, as it is pasted. -/
def pasted (key : String) : String := helm.shown (values.field key)

def indexed (index : Int) : String := pasted helm values "name" ++ "-" ++ toString index

/-- The labels that `nodes.tpl` writes for every Node, with their values as text. -/
def builtInLabels (name hostname : String) : List (String × String) :=
  [("beta.kubernetes.io/arch", "amd64"),
   ("beta.kubernetes.io/os", "linux"),
   ("kubernetes.io/arch", "amd64"),
   ("kubernetes.io/hostname", hostname),
   ("kubernetes.io/os", "linux"),
   ("kubernetes.io/role", "agent"),
   ("node-role.kubernetes.io/agent", "\"\""),
   ("node.kubernetes.io/exclude-from-external-load-balancers", "\"true\""),
   ("kubernetes.azure.com/managed", "\"false\""),
   ("type", "kperf-virtualnodes"),
   ("alpha.kperf.io/nodepool", name)]

/-- The loop over `nodeLabels`. -/
def rangedLabels : List (String × String) :=
  (rangeMap (values.field "nodeLabels")).map fun label =>
    (helm.shown (.leaf (.text label.1)), helm.shown label.2)

def nodeLabelLines (index : Int) : List (String × String) :=
  builtInLabels (pasted helm values "name") (indexed helm values index) ++ rangedLabels helm values

def nodeMetadata (index : Int) : List (String × Block) :=
  [("annotations", .mapping 2
     [("node.alpha.kubernetes.io/ttl", .scalar "\"0\""),
      ("kwok.x-k8s.io/node", .scalar "fake"),
      ("kwok.x-k8s.io/manage", .scalar (indexed helm values index))]),
   ("labels", .mapping 2
     ((nodeLabelLines helm values index).map fun label => (label.1, .scalar label.2))),
   ("name", .scalar (indexed helm values index))]

def nodeResources : List (String × Block) :=
  [("cpu", .scalar (pasted helm values "cpu")),
   ("memory", .scalar (pasted helm values "memory" ++ "Gi")),
   ("pods", .scalar (pasted helm values "maxPods"))]

/-- One document of `nodes.tpl`. -/
def nodeDocument (index : Int) : List (String × Block) :=
  [("apiVersion", .scalar "v1"),
   ("kind", .scalar "Node"),
   ("metadata", .mapping 2 (nodeMetadata helm values index)),
   ("spec", .mapping 2
     (("taints", .sequence 0 [.mapping 0
        [("effect", .scalar "NoSchedule"),
         ("key", .scalar "kperf.io/nodepool"),
         ("value", .scalar "fake")]]) ::
      if isTrue (values.field "sharedProviderID") then
        [("providerID", .scalar (pasted helm values "sharedProviderID"))]
      else [])),
   ("status", .mapping 2
     [("allocatable", .mapping 2 (nodeResources helm values)),
      ("capacity", .mapping 2 (nodeResources helm values)),
      ("nodeInfo", .mapping 2
        [("architecture", .scalar "amd64"),
         ("containerRuntimeVersion", .scalar "\"kwok\""),
         ("kubeProxyVersion", .scalar "fake"),
         ("kubeletVersion", .scalar "fake"),
         ("operatingSystem", .scalar "linux")])])]

def nodeIndexes : List Int := helm.untilStep 0 (helm.int (values.field "replicas")) 1

def nodeDocuments : List (List (String × Block)) :=
  (nodeIndexes helm values).map (nodeDocument helm values)

/-- `nodes.tpl`. -/
def nodesText : String := Yaml.streamText (nodeDocuments helm values)

def fieldReference (name fieldPath : String) : Block :=
  .mapping 0
    [("name", .scalar name),
     ("valueFrom", .mapping 2
       [("fieldRef", .mapping 2 [("fieldPath", .scalar fieldPath)])])]

/-- The block of `nodeSelectors`. -/
def affinity : List (String × Block) :=
  if isTrue (values.field "nodeSelectors") then
    [("affinity", .mapping 2 [("nodeAffinity", .mapping 2
      [("requiredDuringSchedulingIgnoredDuringExecution", .mapping 2
        [("nodeSelectorTerms", .sequence 0 [.mapping 0 [("matchExpressions", .sequence 0
          ((rangeMap (values.field "nodeSelectors")).map fun selector => .mapping 0
            [("key", .scalar ("\"" ++ helm.shown (.leaf (.text selector.1)) ++ "\"")),
             ("operator", .scalar "In"),
             ("values", .sequence 2 ((rangeList selector.2).map fun value =>
               .scalar (helm.shown (.leaf value))))]))]])])])])]
  else []

def controllerContainer : Block :=
  .mapping 0
    [("args", .sequence 0
       [.scalar "--config=/data/kwok-config.yaml",
        .scalar "--manage-all-nodes=false",
        .scalar "--manage-single-node=$(POD_NAME)",
        .scalar "--disregard-status-with-annotation-selector=kwok.x-k8s.io/status=custom",
        .scalar "--disregard-status-with-label-selector=",
        .scalar "--node-ip=$(POD_IP)",
        .scalar "--node-port=10247",
        .scalar "--cidr=10.0.0.1/24",
        .scalar "--node-lease-duration-seconds=40"]),
     ("env", .sequence 0
       [fieldReference "POD_IP" "status.podIP", fieldReference "POD_NAME" "metadata.name"]),
     ("image", .scalar "registry.k8s.io/kwok/kwok:v0.7.0"),
     ("imagePullPolicy", .scalar "IfNotPresent"),
     ("name", .scalar "kwok-controller"),
     ("volumeMounts", .sequence 0
       [.mapping 0 [("name", .scalar "kwok-config"), ("mountPath", .scalar "/data/")]]),
     ("resources", .mapping 1
       [("limits", .mapping 2 [("cpu", .scalar "\"500m\"")]),
        ("requests", .mapping 2 [("cpu", .scalar "\"10m\"")])])]

def controllerPodSpec : List (String × Block) :=
  affinity helm values ++
    [("terminationGracePeriodSeconds", .scalar "1"),
     ("containers", .sequence 0 [controllerContainer]),
     ("restartPolicy", .scalar "Always"),
     ("serviceAccount", .scalar (pasted helm values "name")),
     ("serviceAccountName", .scalar (pasted helm values "name")),
     ("volumes", .sequence 0
       [.mapping 0
         [("name", .scalar "kwok-config"),
          ("configMap", .mapping 2 [("name", .scalar (pasted helm values "name"))])]])]

def statefulSetMetadata : List (String × Block) :=
  [("name", .scalar (pasted helm values "name")),
   ("namespace", .scalar virtualnodeReleaseNamespace)]

def statefulSetSpec : List (String × Block) :=
  [("selector", .mapping 2
     [("matchLabels", .mapping 2 [("app", .scalar (pasted helm values "name"))])]),
   ("replicas", .scalar (pasted helm values "replicas")),
   ("podManagementPolicy", .scalar "Parallel"),
   ("template", .mapping 2
     [("metadata", .mapping 2
        [("labels", .mapping 2 [("app", .scalar (pasted helm values "name"))])]),
      ("spec", .mapping 2 (controllerPodSpec helm values))])]

/-- `statefulsets.tpl`. -/
def statefulSetDocument : List (String × Block) :=
  [("apiVersion", .scalar "apps/v1"),
   ("kind", .scalar "StatefulSet"),
   ("metadata", .mapping 2 (statefulSetMetadata helm values)),
   ("spec", .mapping 2 (statefulSetSpec helm values))]

def statefulSetText : String := Yaml.documentText (statefulSetDocument helm values)

end Templates

/-! What is created from the texts. An object has a string for its name; the number of
replicas is an integer of 32 bits. -/

def objectName (tree : Yaml.Tree) : Option String :=
  (tree.path ["metadata", "name"]).bind Yaml.Tree.text

structure StatefulSet where
  name : String
  replicas : Nat
  deriving DecidableEq, Repr

def int32 (value : Rat) : Option Nat :=
  if value.den = 1 ∧ 0 ≤ value.num ∧ value.num < 2 ^ 31 then some value.num.toNat else none

def StatefulSet.ofTree (tree : Yaml.Tree) : Option StatefulSet := do
  let name ← objectName tree
  let replicas ← ((tree.path ["spec", "replicas"]).bind Yaml.Tree.number).bind int32
  some ⟨name, replicas⟩

structure ControllerPod where
  name : String
  manageSingleNode : String
  deriving DecidableEq, Repr

/-- The pods of a stateful set: the argument `--manage-single-node=$(POD_NAME)` is the
name of the pod. -/
def StatefulSet.pods (statefulSet : StatefulSet) : List ControllerPod :=
  (List.range statefulSet.replicas).map fun ordinal =>
    { name := statefulSet.name ++ "-" ++ toString ordinal
      manageSingleNode := statefulSet.name ++ "-" ++ toString ordinal }

namespace NodepoolConfig

variable (yaml : Yaml.Library) (helm : HelmLibrary) (cfg : NodepoolConfig)

def nodeValues : Option (Values Leaf) := releaseValues helm nodesChartValues cfg.nodeRelease

def controllerValues : Option (Values Leaf) :=
  releaseValues helm nodecontrollersChartValues cfg.nodeControllerRelease

def nodes : Option (List String) := do
  let values ← cfg.nodeValues helm
  let trees ← yaml.decode (nodesText helm values)
  trees.mapM objectName

def statefulSet : Option StatefulSet := do
  let values ← cfg.controllerValues helm
  match ← yaml.decode (statefulSetText helm values) with
  | [tree] => StatefulSet.ofTree tree
  | _ => none

def controllerPods : Option (List ControllerPod) := (cfg.statefulSet yaml helm).map StatefulSet.pods

end NodepoolConfig

/-! `nodepool batch-add`. -/

structure NodepoolFlags where
  cpu : Int
  memory : Int
  maxPods : Int
  affinity : StringMap (List String)
  nodeLabels : StringMap String
  sharedProviderID : String

def NodepoolFlags.opts (flags : NodepoolFlags) (nodes : Int) : List NodepoolOpt :=
  [.cpuOpt flags.cpu, .memoryOpt flags.memory, .countOpt nodes, .maxPodsOpt flags.maxPods,
   .nodeControllerAffinity flags.affinity, .labelsOpt flags.nodeLabels,
   .sharedProviderID flags.sharedProviderID]

/-- The pools that the loop creates from index `i` on. -/
def batches (flags : NodepoolFlags) (nodepoolName : String) (totalNodes batchSize : Int) :
    Nat → Int → Option (List NodepoolConfig)
  | 0, _ => none
  | fuel + 1, i =>
      if i < totalNodes then
        let currentBatchSize :=
          if totalNodes < addInt64 i batchSize then totalNodes - i else batchSize
        let batchNodepoolName := nodepoolName ++ "-" ++ toString (i.tdiv batchSize)
        (batches flags nodepoolName totalNodes batchSize fuel (addInt64 i batchSize)).map
          (.configure batchNodepoolName (flags.opts currentBatchSize) :: ·)
      else some []

/-- The pools that `nodepool batch-add` asks for. -/
def nodepoolBatchAdd (flags : NodepoolFlags) (argument : String) (totalNodes batchSize : Int)
    (fuel : Nat) : Outcome (Option (List NodepoolConfig)) :=
  let nodepoolName := Text.trimSpace argument
  if nodepoolName = "" then fail "nodepool name prefix should not be empty"
  else if batchSize ≤ 0 then fail "batch-size must be greater than zero"
  else .ok (batches flags nodepoolName totalNodes batchSize fuel 0)

end Kperf.VirtualCluster
