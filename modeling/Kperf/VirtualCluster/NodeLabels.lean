import Kperf.Cmd.Utils
import Kperf.Library.LabelSelector
import Kperf.VirtualCluster.NodeNamesProperties

/-! The labels of a pool's Nodes, on their way from `key=value` arguments through the
values of the nodes chart into the documents that `nodes.tpl` writes, and out of those
again. The template writes keys and values without quotes, so the text alone decides
which of them are strings. -/

set_option autoImplicit false

namespace Kperf.VirtualCluster

open Outcome
open Helmcli (Leaf Values HelmLibrary rangeMap noValue)
open LabelSelector (isLabelValue)
open Yaml (Block)

/-- `yaml.Marshal` of the labels under their key, and `yaml.Unmarshal` of such a text. -/
structure LabelCodec where
  marshal : StringMap String → String
  unmarshal : String → Option (StringMap String)

/-- The labels are read back as they were written, with quotes where they need them. -/
def LabelCodec.RoundTrips (codec : LabelCodec) (labels : StringMap String) : Prop :=
  ∃ again, codec.unmarshal (codec.marshal labels) = some again ∧
    ∀ key, again.lookup key = labels.lookup key

namespace NodepoolConfig

variable (codec : LabelCodec) (helm : HelmLibrary) (cfg : NodepoolConfig)

def renderNodeLabels : String := codec.marshal cfg.labels

/-- The values of the nodes release, with the labels that `YAMLValuesApplier` reads. -/
def labelledValues : Option (Values Leaf) := do
  let labels ← codec.unmarshal (cfg.renderNodeLabels codec)
  NodepoolConfig.nodeValues helm { cfg with labels := labels }

end NodepoolConfig

def builtInKeys : List String := (builtInLabels "" "").map Prod.fst

/-- What a decoded Node has under a label. -/
def decodedLabel (node : Yaml.Tree) (key : String) : Option Yaml.Tree :=
  (node.path ["metadata", "labels"]).bind fun labels => labels.find key

/-- No text that `nodes.tpl` pastes needs quotes, and Helm takes no label for a value that
is not there. -/
def pastesLines (yaml : Yaml.Library) (helm : HelmLibrary) (values : Values Leaf) : Bool :=
  (nodeDocuments helm values).all yaml.readableEntries &&
    (rangeMap (values.field "nodeLabels")).all fun label => !Text.contains label.1 noValue

/-- The flags of `nodepool add`. -/
structure AddFlags where
  nodes : Int
  cpu : Int
  memory : Int
  maxPods : Int
  affinity : List String
  nodeLabels : List String
  sharedProviderID : String

/-- The pool that `nodepool add` asks for, as far as `CreateNodepool` accepts it. -/
def nodepoolAdd (argument : String) (flags : AddFlags) : Outcome NodepoolConfig := do
  if Text.trimSpace argument = "" then fail "required non-empty nodepool name"
  else
    let affinityLabels ← wrap "failed to parse affinity: " (Cmd.Utils.keyValuesMap flags.affinity)
    let nodeLabels ← wrap "failed to parse node-labels: " (Cmd.Utils.keyValueMap flags.nodeLabels)
    let cfg : NodepoolConfig := .configure (Text.trimSpace argument)
      (NodepoolFlags.opts ⟨flags.cpu, flags.memory, flags.maxPods, affinityLabels, nodeLabels,
        flags.sharedProviderID⟩ flags.nodes)
    cfg.validate
    .ok cfg

section Pool

variable {yaml : Yaml.Library} {helm : HelmLibrary} {codec : LabelCodec} {cfg : NodepoolConfig}
variable {values : Values Leaf} {labels : StringMap String}

theorem nodepoolAdd_eq_ok {argument : String} {flags : AddFlags}
    (added : nodepoolAdd argument flags = .ok cfg) :
    Cmd.Utils.keyValueMap flags.nodeLabels = .ok cfg.labels ∧ cfg.validate = .ok () := by
  rw [nodepoolAdd, guard_eq_ok] at added
  obtain ⟨-, added⟩ := added
  obtain ⟨affinityLabels, -, added⟩ := bind_eq_ok.mp added
  obtain ⟨nodeLabels, parsed, added⟩ := bind_eq_ok.mp added
  obtain ⟨_, valid, added⟩ := bind_eq_ok.mp added
  cases added
  exact ⟨wrap_eq_ok.mp parsed, valid⟩

/-- The labels are applied last, so the values have them as they were given. -/
theorem get_nodeLabels {key value : String} (configured : cfg.labels.lookup key = some value)
    (released : cfg.nodeValues helm = some values) :
    values.get ["nodeLabels", key] = some (.leaf (.text value)) := by
  have spelled : ∃ assignments, cfg.nodeRelease.appliers =
      [.stringPath assignments, .nodeLabels cfg.labels] := ⟨_, rfl⟩
  obtain ⟨assignments, spelled⟩ := spelled
  rw [NodepoolConfig.nodeValues, releaseValues, spelled, List.foldlM_cons, Option.bind_eq_bind,
    Option.map_eq_some_iff] at released
  obtain ⟨applied, released, rfl⟩ := released
  obtain ⟨assigned, -, released⟩ := Option.bind_eq_some_iff.mp released
  cases released
  have given : (under "nodeLabels" .text cfg.labels).get ["nodeLabels", key] =
      some (.leaf (.text value)) := by
    have found : (leaves .text cfg.labels).dlookup key = some (.leaf (.text value)) := by
      refine (StringMap.lookup_mapValues _ cfg.labels key).trans ?_
      rw [configured, Option.map_some]
    rw [Values.get, Values.tree, under, ValueTree.get_map_cons, List.dlookup_cons_eq,
      Option.bind_some, ValueTree.get_map_cons, found, Option.bind_some, ValueTree.get_nil]
  have applied : (assigned.applyValues (under "nodeLabels" .text cfg.labels)).get
      ["nodeLabels", key] = some (.leaf (.text value)) :=
    Values.get_applyValues_value (ValueTree.Same.refl _) given
  rw [Values.get_copyValues_leaf applied, Leaf.recoded]

theorem get_labelledValues (roundTrips : codec.RoundTrips cfg.labels) {key value : String}
    (configured : cfg.labels.lookup key = some value)
    (released : cfg.labelledValues codec helm = some values) :
    values.get ["nodeLabels", key] = some (.leaf (.text value)) := by
  obtain ⟨again, read, same⟩ := roundTrips
  rw [NodepoolConfig.labelledValues, NodepoolConfig.renderNodeLabels, read, Option.bind_eq_bind,
    Option.bind_some] at released
  exact get_nodeLabels ((same key).trans configured) released

/-! What YAML makes of the labels of one Node. -/

section Decoded

variable {index : Int} {key value : String}

def labelEntries (helm : HelmLibrary) (values : Values Leaf) (index : Int) :
    List (String × Block) :=
  (nodeLabelLines helm values index).map fun label => (label.1, .scalar label.2)

theorem decodedLabel_nodeDocument (yamlLawful : yaml.Lawful) (key : String) :
    decodedLabel (.mapping (yaml.treeEntries (nodeDocument helm values index))) key =
      Yaml.Tree.held (yaml.treeEntries (labelEntries helm values index)) (.string key) := by
  obtain ⟨top, metadata⟩ := nodeDocument_keys helm values index
  rw [decodedLabel, Yaml.Library.path_pair yamlLawful top (.tail _ (.tail _ (.head _))) (by decide)
    metadata (.tail _ (.head _)) (by decide), Option.bind_some, Yaml.Library.tree, Yaml.Tree.find]
  rfl

theorem mem_builtInKeys {name hostname : String} {label : String × String}
    (builtIn : label ∈ builtInLabels name hostname) : label.1 ∈ builtInKeys := by
  have keys : (builtInLabels name hostname).map Prod.fst = builtInKeys := rfl
  rw [← keys]
  exact List.mem_map_of_mem builtIn

/-- An entry under a string that is no built-in key comes from the label of that key. -/
theorem mem_labelEntries_iff (lawful : helm.Lawful yaml) (yamlLawful : yaml.Lawful)
    (pastes : pastesLines yaml helm values = true) (other : key ∉ builtInKeys) (shown : Yaml.Tree) :
    (Yaml.Scalar.string key, shown) ∈ yaml.treeEntries (labelEntries helm values index) ↔
      yaml.reads key = none ∧ ∃ tree, values.get ["nodeLabels", key] = some tree ∧
        yaml.tree (.scalar (helm.shown tree)) = shown := by
  have named {name : String} {tree : ValueTree String Leaf}
      (ranged : (name, tree) ∈ rangeMap (values.field "nodeLabels")) :
      helm.shown (.leaf (.text name)) = name := by
    rw [pastesLines, Bool.and_eq_true] at pastes
    refine lawful.text name ?_
    simpa using List.all_eq_true.mp pastes.2 _ ranged
  rw [Yaml.Library.treeEntries_eq, labelEntries, List.map_map, List.mem_map]
  constructor
  · rintro ⟨label, member, same⟩
    obtain ⟨sameKey, sameValue⟩ := Prod.mk.inj same
    obtain ⟨reads, rfl⟩ := (Yaml.Library.scalar_eq_string_iff yamlLawful).mp sameKey
    cases List.mem_append.mp member with
    | inl builtIn => exact absurd (mem_builtInKeys builtIn) other
    | inr written =>
        obtain ⟨⟨name, tree⟩, ranged, rfl⟩ := List.mem_map.mp written
        rw [named ranged] at reads ⊢
        exact ⟨reads, tree, Helmcli.mem_rangeMap.mp ranged, sameValue⟩
  · rintro ⟨reads, tree, held, rfl⟩
    have ranged := Helmcli.mem_rangeMap.mpr held
    refine ⟨(key, helm.shown tree), List.mem_append_right _ (List.mem_map.mpr ⟨_, ranged, ?_⟩), ?_⟩
    · rw [named ranged]
    · rw [Function.comp_apply, (Yaml.Library.scalar_eq_string_iff yamlLawful).mpr ⟨reads, rfl⟩]

/-- A label value is shown as it is, and YAML takes it for one text. -/
theorem labelValue_shown (lawful : helm.Lawful yaml) (yamlLawful : yaml.Lawful)
    (valid : value = "" ∨ isLabelValue value = true) :
    helm.shown (.leaf (.text value)) = value ∧
      (Yaml.isPlain value = true ∨ (yaml.reads value).isSome = true) := by
  cases valid with
  | inl empty =>
      subst value
      exact ⟨lawful.text "" rfl, .inr (by rw [yamlLawful.empty]; rfl)⟩
  | inr label =>
      simp only [isLabelValue, Bool.and_eq_true, List.all_eq_true] at label
      have names : ∀ char ∈ value.toList, Yaml.isNameChar char = true := by
        intro char member
        have allowed := label.1.1.2 char member
        simpa [LabelSelector.isLabelChar, Yaml.isNameChar] using allowed
      exact ⟨lawful.text value (Helmcli.contains_noValue names),
        .inl (Yaml.isPlain_of_isNameChar names label.1.2)⟩

theorem mem_labelEntries_value (lawful : helm.Lawful yaml) (yamlLawful : yaml.Lawful)
    (pastes : pastesLines yaml helm values = true) (other : key ∉ builtInKeys)
    (given : values.get ["nodeLabels", key] = some (.leaf (.text value)))
    (valid : value = "" ∨ isLabelValue value = true) (shown : Yaml.Tree) :
    (Yaml.Scalar.string key, shown) ∈ yaml.treeEntries (labelEntries helm values index) ↔
      yaml.reads key = none ∧ shown = .scalar (yaml.scalar value) := by
  obtain ⟨shownValue, known⟩ := labelValue_shown lawful yamlLawful valid
  rw [mem_labelEntries_iff lawful yamlLawful pastes other, given]
  simp [shownValue, Yaml.Library.tree_scalar yamlLawful known, eq_comm]

/-- A label is found under its key as what its value reads as. -/
theorem held_labelEntries (lawful : helm.Lawful yaml) (yamlLawful : yaml.Lawful)
    (pastes : pastesLines yaml helm values = true) (other : key ∉ builtInKeys)
    (given : values.get ["nodeLabels", key] = some (.leaf (.text value)))
    (valid : value = "" ∨ isLabelValue value = true) (reads : yaml.reads key = none) :
    Yaml.Tree.held (yaml.treeEntries (labelEntries helm values index)) (.string key) =
      some (.scalar (yaml.scalar value)) := by
  have entries (shown : Yaml.Tree) :
      (Yaml.Scalar.string key, shown) ∈ yaml.treeEntries (labelEntries helm values index) ↔
        yaml.reads key = none ∧ shown = .scalar (yaml.scalar value) :=
    mem_labelEntries_value lawful yamlLawful pastes other given valid shown
  refine Yaml.Tree.held_of_mem ((entries _).mpr ⟨reads, rfl⟩) fun shown member => ?_
  exact ((entries shown).mp member).2

theorem held_labelEntries_iff (lawful : helm.Lawful yaml) (yamlLawful : yaml.Lawful)
    (pastes : pastesLines yaml helm values = true) (other : key ∉ builtInKeys)
    (given : values.get ["nodeLabels", key] = some (.leaf (.text value)))
    (valid : value = "" ∨ isLabelValue value = true) :
    Yaml.Tree.held (yaml.treeEntries (labelEntries helm values index)) (.string key) =
        some (.scalar (.string value)) ↔
      yaml.reads key = none ∧ yaml.reads value = none := by
  constructor
  · intro last
    obtain ⟨keyReads, same⟩ := (mem_labelEntries_value lawful yamlLawful pastes other given valid
      _).mp (Yaml.Tree.mem_of_held last)
    obtain ⟨valueReads, -⟩ :=
      (Yaml.Library.scalar_eq_string_iff yamlLawful).mp (Yaml.Tree.scalar.inj same).symm
    exact ⟨keyReads, valueReads⟩
  · rintro ⟨keyReads, valueReads⟩
    rw [held_labelEntries lawful yamlLawful pastes other given valid keyReads,
      (Yaml.Library.scalar_eq_string_iff yamlLawful).mpr ⟨valueReads, rfl⟩]

end Decoded

end Pool

/-! The text of the labels, as `sigs.k8s.io/yaml` writes them. -/

namespace CoreSchema

def quotedValue (value : String) : String :=
  if (reads value).isNone && Yaml.isPlain value then value else "\"" ++ value ++ "\""

def labelDocument (labels : StringMap String) : List (String × Block) :=
  [("nodeLabels", .mapping 2
    (labels.entries.map fun label => (label.1, .scalar (quotedValue label.2))))]

def marshal (labels : StringMap String) : String := Yaml.documentText (labelDocument labels)

def readLabel : Yaml.Scalar × Yaml.Tree → Option (String × String)
  | (.string key, .scalar (.string value)) => some (key, value)
  | _ => none

def labelsOf (tree : Yaml.Tree) : Option (StringMap String) :=
  match tree.find "nodeLabels" with
  | some (.mapping entries) => do
      let labels ← entries.mapM readLabel
      some (labels.foldr (fun label labels => AList.insert label.1 label.2 labels) ∅)
  | _ => none

def unmarshal (text : String) : Option (StringMap String) := do
  match ← yaml.decode text with
  | [tree] => labelsOf tree
  | _ => none

def codec : LabelCodec := ⟨marshal, unmarshal⟩

end CoreSchema

/-- One label. -/
def gpuLabel (value : String) : StringMap String := AList.insert "gpu" value ∅

example : CoreSchema.marshal (gpuLabel "true") = "nodeLabels:\n  gpu: \"true\"\n" := by
  decide +kernel

theorem lookup_gpuLabel {value key shown : String} (found : (gpuLabel value).lookup key = some shown) :
    key = "gpu" ∧ shown = value := by
  by_cases same : key = "gpu"
  · subst key
    rw [gpuLabel, AList.lookup_insert] at found
    exact ⟨rfl, (Option.some.inj found).symm⟩
  · rw [gpuLabel, AList.lookup_insert_ne same, AList.lookup_empty] at found
    cases found

def gpuFlags (label : String) : AddFlags where
  nodes := 2
  cpu := 8
  memory := 16
  maxPods := 110
  affinity := []
  nodeLabels := [label]
  sharedProviderID := ""

def gpuPool (value : String) : NodepoolConfig :=
  .configure "pool" (NodepoolFlags.opts ⟨8, 16, 110, ∅, gpuLabel value, ""⟩ 2)

theorem unmarshal_marshal {labels : StringMap String}
    (readable : CoreSchema.yaml.readableEntries (CoreSchema.labelDocument labels) = true)
    (read : CoreSchema.labelsOf (.mapping
      (CoreSchema.yaml.treeEntries (CoreSchema.labelDocument labels))) = some labels) :
    CoreSchema.codec.unmarshal (CoreSchema.codec.marshal labels) = some labels := by
  have decoded := CoreSchema.lawful.document (CoreSchema.labelDocument labels)
    (List.cons_ne_nil _ _) readable
  change CoreSchema.unmarshal (Yaml.documentText (CoreSchema.labelDocument labels)) = some labels
  rw [CoreSchema.unmarshal, decoded]
  exact read

/-- What the witnesses below need of a pool with one label. -/
structure GpuReleased (value : String) (values : Values Leaf) : Prop where
  roundTrips : CoreSchema.codec.RoundTrips (gpuLabel value)
  released : (gpuPool value).labelledValues CoreSchema.codec SetSyntax.helm = some values
  pastes : pastesLines CoreSchema.yaml SetSyntax.helm values = true
  indexes : nodeIndexes SetSyntax.helm values = [0, 1]

theorem gpuReleased {value : String}
    (read : CoreSchema.codec.unmarshal (CoreSchema.codec.marshal (gpuLabel value)) =
      some (gpuLabel value))
    (released : ((gpuPool value).nodeValues SetSyntax.helm).any (fun values =>
      pastesLines CoreSchema.yaml SetSyntax.helm values &&
        decide (nodeIndexes SetSyntax.helm values = [0, 1])) = true) :
    ∃ values, GpuReleased value values := by
  have same : (gpuPool value).labelledValues CoreSchema.codec SetSyntax.helm =
      (gpuPool value).nodeValues SetSyntax.helm := by
    rw [NodepoolConfig.labelledValues]
    exact congrArg (Option.bind · _) read
  cases found : (gpuPool value).nodeValues SetSyntax.helm with
  | none => rw [found] at released; cases released
  | some values =>
      rw [found, Option.any_some, Bool.and_eq_true, decide_eq_true_eq] at released
      exact ⟨values, ⟨gpuLabel value, read, fun _ => rfl⟩, same.trans found, released.1, released.2⟩

theorem gpu_released : ∀ value ∈ ["a100", "true"], ∃ values, GpuReleased value values := by
  have released : ∀ value ∈ ["a100", "true"], ((gpuPool value).nodeValues SetSyntax.helm).any
      (fun values => pastesLines CoreSchema.yaml SetSyntax.helm values &&
        decide (nodeIndexes SetSyntax.helm values = [0, 1])) = true := by
    decide +kernel
  intro value member
  refine gpuReleased ?_ (released value member)
  rcases List.mem_pair.mp member with rfl | rfl
  · exact unmarshal_marshal (by decide +kernel) rfl
  · exact unmarshal_marshal (by decide +kernel) rfl

end Kperf.VirtualCluster
