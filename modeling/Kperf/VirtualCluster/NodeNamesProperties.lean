import Kperf.Library.YamlReader
import Kperf.VirtualCluster.NodeNames
import Mathlib.Data.Bool.AllAny
import Mathlib.Data.List.Perm.Subperm

/-! Every Node has one controller pod: the Node names of all pools are distinct and are
the names of the controller pods, unless a provider ID is read as assignments that name
the Nodes of some pool differently. This holds as far as no text that is pasted into the
charts needs quotes. -/

set_option autoImplicit false

namespace Kperf.VirtualCluster

open Outcome
open Helmcli (Leaf Values HelmLibrary isReleaseName roundFloat64)
open Yaml (Block)

/-! Numbered names. -/

section Numbered

def numbered (name : String) (count : Nat) : List String :=
  (List.range count).map fun index => name ++ "-" ++ toString index

theorem mem_numbered {name text : String} {count : Nat} :
    text ∈ numbered name count ↔ ∃ index < count, name ++ "-" ++ toString index = text := by
  simp [numbered]

theorem numbered_nodup (name : String) (count : Nat) : (numbered name count).Nodup := by
  refine List.nodup_range.map fun first second same => ?_
  exact (Decimal.dash_inj same).2

theorem numbered_disjoint {name other : String} (differs : name ≠ other) (count size : Nat) :
    (numbered name count).Disjoint (numbered other size) := by
  intro member left right
  obtain ⟨first, -, rfl⟩ := mem_numbered.mp left
  obtain ⟨second, -, same⟩ := mem_numbered.mp right
  exact differs (Decimal.dash_inj same).1.symm

/-- The names that come from a name and a size. -/
def numberedPair (pair : String × Int) : List String := numbered pair.1 pair.2.toNat

theorem mem_numberedPairs {pairs : List (String × Int)} {name : String} {index : Nat} :
    name ++ "-" ++ toString index ∈ pairs.flatMap numberedPair ↔
      ∃ size : Int, (name, size) ∈ pairs ∧ index < size.toNat := by
  constructor
  · intro member
    obtain ⟨⟨other, size⟩, inside, member⟩ := List.mem_flatMap.mp member
    obtain ⟨number, below, same⟩ := mem_numbered.mp member
    obtain ⟨rfl, rfl⟩ := Decimal.dash_inj same
    exact ⟨size, inside, below⟩
  · rintro ⟨size, inside, below⟩
    exact List.mem_flatMap.mpr ⟨(name, size), inside, mem_numbered.mpr ⟨index, below, rfl⟩⟩

theorem nodup_numberedPairs {pairs : List (String × Int)} (once : (pairs.map Prod.fst).Nodup) :
    (pairs.flatMap numberedPair).Nodup := by
  refine List.nodup_flatMap.mpr ⟨fun pair _ => numbered_nodup _ _, ?_⟩
  rw [List.Nodup, List.pairwise_map] at once
  exact once.imp fun differs => numbered_disjoint differs _ _

/-- The last name of each pair tells its size, so pairs whose names are those of as many
other pairs are the same pairs. -/
theorem numberedPairs_iff {charts pools : List (String × Int)} (sizes : charts.length = pools.length)
    (positive : ∀ pool ∈ pools, 0 < pool.2) (once : (pools.map Prod.fst).Nodup) :
    ((charts.flatMap numberedPair).Nodup ∧
      ∀ name, name ∈ pools.flatMap numberedPair ↔ name ∈ charts.flatMap numberedPair) ↔
      charts.Perm pools := by
  constructor
  · rintro ⟨-, same⟩
    have inCharts : pools ⊆ charts := by
      rintro ⟨name, count⟩ inside
      have nonempty := positive _ inside
      obtain ⟨size, rendered, atLeast⟩ := mem_numberedPairs.mp
        ((same _).mp (mem_numberedPairs.mpr ⟨count, inside, (by omega : count.toNat - 1 < _)⟩))
      obtain ⟨again, pooled, atMost⟩ := mem_numberedPairs.mp
        ((same _).mpr (mem_numberedPairs.mpr ⟨size, rendered, (by omega : size.toNat - 1 < _)⟩))
      have single := List.inj_on_of_nodup_map once pooled inside rfl
      obtain ⟨-, rfl⟩ := Prod.mk.inj single
      have equal : size = again := by omega
      rwa [equal] at rendered
    have distinct : pools.Nodup := once.of_map
    exact ((List.subperm_of_subset distinct inCharts).perm_of_length_le sizes.le).symm
  · intro perm
    have names := perm.flatMap_right numberedPair
    refine ⟨names.nodup_iff.mpr (nodup_numberedPairs once), fun name => ?_⟩
    exact names.mem_iff.symm

end Numbered

namespace NodepoolConfig

variable (yaml : Yaml.Library) (helm : HelmLibrary) (cfg : NodepoolConfig)

/-- The name and the size that the Nodes are rendered with. -/
def renderedAs : String × Int :=
  ((cfg.nodeValues helm).map fun values =>
    (pasted helm values "name", helm.int (values.field "replicas"))).getD ("", 0)

/-- No text that the charts paste needs quotes: each stands for itself on its line. -/
def needsNoQuotes : Bool :=
  ((cfg.nodeValues helm).all fun values =>
    Yaml.isPlain (pasted helm values "name") &&
      (nodeDocuments helm values).all yaml.readableEntries) &&
  (cfg.controllerValues helm).all fun values =>
    yaml.readableEntries (statefulSetDocument helm values)

/-- The pool passed the checks, its sizes are 64-bit integers and Helm deployed both of
its releases. -/
structure Created : Prop where
  valid : cfg.validate = .ok ()
  fits : cfg.count < 2 ^ 63
  accepted : helm.accepts cfg.name = true
  nodes : (cfg.nodes yaml helm).isSome = true
  controllers : (cfg.statefulSet yaml helm).isSome = true

def nodeNames : List String := (cfg.nodes yaml helm).getD []

def pods : List ControllerPod := (cfg.controllerPods yaml helm).getD []

def podNames : List String := (cfg.pods yaml helm).map ControllerPod.name

end NodepoolConfig

/-- The Nodes of all pools have distinct names, the controller pods are named like them,
and each pod manages the Node of its own name. -/
structure EachManaged (yaml : Yaml.Library) (helm : HelmLibrary) (pools : List NodepoolConfig) :
    Prop where
  distinct : (pools.flatMap (·.nodeNames yaml helm)).Nodup
  same : ∀ name, name ∈ pools.flatMap (·.podNames yaml helm) ↔
    name ∈ pools.flatMap (·.nodeNames yaml helm)
  manages : ∀ pool ∈ pools, ∀ pod ∈ pool.pods yaml helm, pod.manageSingleNode = pod.name

/-! The controllers of a pool. -/

section Controllers

variable {yaml : Yaml.Library} {helm : HelmLibrary} {cfg : NodepoolConfig} {values : Values Leaf}

theorem apply_cons {assignment : String} {rest : List String} {next : Values Leaf}
    (parsed : helm.parseInto assignment values = some next) :
    ValuesApplier.apply helm values (.stringPath (assignment :: rest)) =
      ValuesApplier.apply helm next (.stringPath rest) := by
  simp only [ValuesApplier.apply, List.foldlM_cons, parsed]
  rfl

theorem get_under_ne {V : Type} {key other : String} (differs : other ≠ key) (leaf : V → Leaf)
    (map : StringMap V) : (under key leaf map).get [other] = none := by
  rw [Values.get, Values.tree, ValueTree.get_map_cons, under, List.dlookup_cons_ne _ _ differs,
    List.dlookup_nil, Option.bind_none]

/-- What the controller chart gets for the name and for the number of replicas. -/
theorem controllerValues_eq (lawful : helm.Lawful yaml) (positive : 0 < cfg.count)
    (fits : cfg.count < 2 ^ 63) (named : isReleaseName cfg.name = true) :
    ∃ values, ∃ leaf : Leaf, cfg.controllerValues helm = some values ∧ leaf.ReadFrom cfg.name ∧
      values.field "name" = .leaf leaf.recoded ∧
      values.field "replicas" = .leaf (.float (roundFloat64 cfg.count)) := by
  obtain ⟨leaf, first, parsed, assigned, read⟩ := lawful.assigns "name" (by decide) cfg.name named
    nodecontrollersChartValues.copyValues
  obtain ⟨second, parsedSize, sized⟩ := lawful.integers "replicas" (by decide) cfg.count positive.le
    fits first
  have spelled : cfg.nodeControllerRelease.appliers =
      [.stringPath ["name" ++ "=" ++ cfg.name, "replicas" ++ "=" ++ toString cfg.count],
       .nodeSelectors cfg.nodeSelectors] := rfl
  have kept {key : String} {held : Leaf} (here : second.get [key] = some (.leaf held))
      (other : key ≠ "nodeSelectors") :
      ((second.applyValues (under "nodeSelectors" (fun items => .list (items.map .text))
        cfg.nodeSelectors)).copyValues).field key = .leaf held.recoded := by
    rw [Values.field, Values.get_copyValues_leaf, Option.getD_some]
    rw [Values.get_applyValues_absent (get_under_ne other _ _) [], here]
  refine ⟨_, leaf, ?_, read, kept ?_ (by decide), kept sized.here (by decide)⟩
  · rw [NodepoolConfig.controllerValues, releaseValues, spelled, List.foldlM_cons,
      apply_cons parsed, apply_cons parsedSize]
    rfl
  · rw [sized.others "name" [] (by decide), assigned.here]

/-- The object that the document of the controllers stands for. -/
theorem ofTree_statefulSetDocument (yamlLawful : yaml.Lawful) {made : StatefulSet} :
    StatefulSet.ofTree (.mapping (yaml.treeEntries (statefulSetDocument helm values))) = some made ↔
      (yaml.tree (.scalar (pasted helm values "name"))).text = some made.name ∧
      (yaml.tree (.scalar (pasted helm values "replicas"))).number.bind int32 =
        some made.replicas := by
  have top : ((statefulSetDocument helm values).map Prod.fst).Nodup :=
    (by decide : ["apiVersion", "kind", "metadata", "spec"].Nodup)
  have metadata : ((statefulSetMetadata helm values).map Prod.fst).Nodup :=
    (by decide : ["name", "namespace"].Nodup)
  have spec : ((statefulSetSpec helm values).map Prod.fst).Nodup :=
    (by decide : ["selector", "replicas", "podManagementPolicy", "template"].Nodup)
  have name : (Yaml.Tree.mapping (yaml.treeEntries (statefulSetDocument helm values))).path
      ["metadata", "name"] = some (yaml.tree (.scalar (pasted helm values "name"))) :=
    Yaml.Library.path_pair yamlLawful top (.tail _ (.tail _ (.head _))) (by decide) metadata
      (.head _) (by decide)
  have replicas : (Yaml.Tree.mapping (yaml.treeEntries (statefulSetDocument helm values))).path
      ["spec", "replicas"] = some (yaml.tree (.scalar (pasted helm values "replicas"))) :=
    Yaml.Library.path_pair yamlLawful top (.tail _ (.tail _ (.tail _ (.head _)))) (by decide) spec
      (.tail _ (.head _)) (by decide)
  rw [StatefulSet.ofTree, objectName, name, replicas, Option.bind_some, Option.bind_some]
  constructor
  · intro decoded
    obtain ⟨shown, named, decoded⟩ := Option.bind_eq_some_iff.mp decoded
    obtain ⟨size, sized, decoded⟩ := Option.bind_eq_some_iff.mp decoded
    cases decoded
    exact ⟨named, sized⟩
  · rintro ⟨named, sized⟩
    rw [named, sized]
    rfl

theorem int32_intCast {number : Int} {size : Nat} (held : int32 number = some size) :
    (size : Int) = number ∧ number < 2 ^ 31 := by
  rw [int32] at held
  split at held
  · rename_i bounds
    cases held
    rw [Rat.num_intCast] at bounds ⊢
    exact ⟨Int.toNat_of_nonneg bounds.2.1, bounds.2.2⟩
  · cases held

theorem decode_statefulSetText (yamlLawful : yaml.Lawful)
    (readable : yaml.readableEntries (statefulSetDocument helm values) = true) :
    yaml.decode (statefulSetText helm values) =
      some [.mapping (yaml.treeEntries (statefulSetDocument helm values))] :=
  yamlLawful.document _ (List.cons_ne_nil _ _) readable

theorem statefulSet_eq (yamlLawful : yaml.Lawful) (unquoted : cfg.needsNoQuotes yaml helm = true)
    (deployed : cfg.controllerValues helm = some values) :
    cfg.statefulSet yaml helm =
      StatefulSet.ofTree (.mapping (yaml.treeEntries (statefulSetDocument helm values))) := by
  rw [NodepoolConfig.needsNoQuotes, deployed, Bool.and_eq_true] at unquoted
  rw [NodepoolConfig.statefulSet, deployed, Option.bind_eq_bind, Option.bind_some,
    decode_statefulSetText yamlLawful unquoted.2]
  rfl

/-- The controller pods are numbered under the pool's name. -/
theorem statefulSet_of_created (lawful : helm.Lawful yaml) (yamlLawful : yaml.Lawful)
    (created : cfg.Created yaml helm) (unquoted : cfg.needsNoQuotes yaml helm = true) :
    cfg.statefulSet yaml helm = some ⟨cfg.name, cfg.count.toNat⟩ := by
  have positive := (NodepoolConfig.validate_eq_ok.mp created.valid).1.1
  have named := lawful.accepts _ created.accepted
  obtain ⟨values, leaf, deployed, read, name, replicas⟩ :=
    controllerValues_eq lawful positive created.fits named
  obtain ⟨made, decoded⟩ := Option.isSome_iff_exists.mp created.controllers
  rw [statefulSet_eq yamlLawful unquoted deployed] at decoded ⊢
  obtain ⟨shown, sized⟩ := (ofTree_statefulSetDocument yamlLawful).mp decoded
  have sameName : made.name = cfg.name := by
    rw [pasted, name] at shown
    exact lawful.shown_text yamlLawful read (Helmcli.isPlain_of_isReleaseName named)
      (Helmcli.contains_noValue (Helmcli.isNameChar_of_isReleaseName named)) shown
  have sameSize : made.replicas = cfg.count.toNat := by
    have number := lawful.number cfg.count positive.le created.fits
    have known : (yaml.reads (pasted helm values "replicas")).isSome = true := by
      rw [pasted, replicas, number]
      rfl
    rw [Yaml.Library.tree_scalar yamlLawful (.inr known), Yaml.Library.scalar, pasted, replicas,
      number] at sized
    obtain ⟨equal, small⟩ := int32_intCast sized
    -- a size that does not survive as a number of 64 bits is too large for a stateful set
    have exact : cfg.count < 2 ^ 53 := by
      by_contra large
      have still := Helmcli.le_roundFloat64 (not_lt.mp large)
      omega
    rw [Helmcli.roundFloat64_eq (by omega)] at equal
    omega
  rw [decoded, ← sameName, ← sameSize]

theorem podNames_of_created (lawful : helm.Lawful yaml) (yamlLawful : yaml.Lawful)
    (created : cfg.Created yaml helm) (unquoted : cfg.needsNoQuotes yaml helm = true) :
    cfg.podNames yaml helm = numberedPair (cfg.name, cfg.count) := by
  rw [NodepoolConfig.podNames, NodepoolConfig.pods, NodepoolConfig.controllerPods,
    statefulSet_of_created lawful yamlLawful created unquoted, Option.map_some, Option.getD_some,
    StatefulSet.pods, List.map_map]
  rfl

theorem pods_manage (cfg : NodepoolConfig) :
    ∀ pod ∈ cfg.pods yaml helm, pod.manageSingleNode = pod.name := by
  rw [NodepoolConfig.pods, NodepoolConfig.controllerPods]
  cases cfg.statefulSet yaml helm with
  | none => nofun
  | some made =>
      intro pod member
      obtain ⟨ordinal, -, rfl⟩ := List.mem_map.mp member
      rfl

end Controllers

/-! The Nodes of a pool. -/

section Nodes

variable {yaml : Yaml.Library} {helm : HelmLibrary} {cfg : NodepoolConfig} {values : Values Leaf}

theorem nodeDocument_keys (helm : HelmLibrary) (values : Values Leaf) (index : Int) :
    ((nodeDocument helm values index).map Prod.fst).Nodup ∧
      ((nodeMetadata helm values index).map Prod.fst).Nodup :=
  ⟨(by decide : ["apiVersion", "kind", "metadata", "spec", "status"].Nodup),
   (by decide : ["annotations", "labels", "name"].Nodup)⟩

theorem objectName_nodeDocument (yamlLawful : yaml.Lawful) (index : Int) :
    objectName (.mapping (yaml.treeEntries (nodeDocument helm values index))) =
      (yaml.tree (.scalar (indexed helm values index))).text := by
  obtain ⟨top, metadata⟩ := nodeDocument_keys helm values index
  rw [objectName, Yaml.Library.path_pair yamlLawful top (.tail _ (.tail _ (.head _))) (by decide)
    metadata (.tail _ (.tail _ (.head _))) (by decide), Option.bind_some]

theorem decode_nodesText (yamlLawful : yaml.Lawful)
    (readable : (nodeDocuments helm values).all yaml.readableEntries = true) :
    yaml.decode (nodesText helm values) = some ((nodeIndexes helm values).map fun index =>
      .mapping (yaml.treeEntries (nodeDocument helm values index))) := by
  have each : ∀ document ∈ nodeDocuments helm values,
      document ≠ [] ∧ yaml.readableEntries document = true := by
    intro document member
    obtain ⟨index, -, rfl⟩ := List.mem_map.mp member
    exact ⟨List.cons_ne_nil _ _, List.all_eq_true.mp readable _ member⟩
  rw [nodesText, yamlLawful.stream _ each, nodeDocuments, List.map_map]
  rfl

theorem isNameChar_digits (number : Nat) :
    ∀ char ∈ (toString number).toList, Yaml.isNameChar char = true := by
  intro char member
  rw [Nat.toString_eq_ofList_toDigits, String.toList_ofList] at member
  have digit := Nat.isDigit_of_mem_toDigits (by decide) (by decide) member
  simp [Yaml.isNameChar, Char.isAlphanum, digit]

theorem isPlain_indexed (plain : Yaml.isPlain (pasted helm values "name") = true) (index : Nat) :
    Yaml.isPlain (indexed helm values index) = true := by
  have digits : ∀ char ∈ ("-" ++ toString index).toList, Yaml.isNameChar char = true := by
    rw [String.toList_append]
    exact List.forall_mem_append.mpr ⟨List.all_eq_true.mp (by decide), isNameChar_digits index⟩
  rw [indexed, String.append_assoc]
  exact Yaml.isPlain_append plain
    (List.all_eq_true.mpr fun char member => (Yaml.isNameChar_printable (digits char member)).1)
    (Yaml.staysPlain_of_isNameChar digits)

/-- If what is found of each item is what is expected, all of it is. -/
theorem mapM_eq_map {α β : Type} {find : α → Option β} {expected : α → β} {items : List α}
    (each : ∀ item ∈ items, ∀ found, find item = some found → found = expected item) {found : List β}
    (all : items.mapM find = some found) : found = items.map expected := by
  induction items generalizing found with
  | nil =>
      cases all
      rfl
  | cons item rest ih =>
      obtain ⟨first, later⟩ := List.forall_mem_cons.mp each
      rw [List.mapM_cons] at all
      obtain ⟨head, here, all⟩ := Option.bind_eq_some_iff.mp all
      obtain ⟨tail, there, all⟩ := Option.bind_eq_some_iff.mp all
      cases all
      rw [first head here, ih later there, List.map_cons]

theorem nodes_eq (yamlLawful : yaml.Lawful) (unquoted : cfg.needsNoQuotes yaml helm = true)
    (deployed : cfg.nodeValues helm = some values) :
    cfg.nodes yaml helm = (nodeIndexes helm values).mapM fun index =>
      (yaml.tree (.scalar (indexed helm values index))).text := by
  rw [NodepoolConfig.needsNoQuotes, deployed, Bool.and_eq_true, Option.all_some,
    Bool.and_eq_true] at unquoted
  rw [NodepoolConfig.nodes, deployed, Option.bind_eq_bind, Option.bind_some,
    decode_nodesText yamlLawful unquoted.1.2, Option.bind_eq_bind, Option.bind_some, List.mapM_map]
  simp only [Function.comp_def, objectName_nodeDocument yamlLawful]

theorem nodeNames_of_created (lawful : helm.Lawful yaml) (yamlLawful : yaml.Lawful)
    (created : cfg.Created yaml helm) (unquoted : cfg.needsNoQuotes yaml helm = true) :
    cfg.nodeNames yaml helm = numberedPair (cfg.renderedAs helm) := by
  obtain ⟨names, rendered⟩ := Option.isSome_iff_exists.mp created.nodes
  obtain ⟨values, deployed, -⟩ := Option.bind_eq_some_iff.mp rendered
  have plain : Yaml.isPlain (pasted helm values "name") = true := by
    rw [NodepoolConfig.needsNoQuotes, deployed, Bool.and_eq_true, Option.all_some,
      Bool.and_eq_true] at unquoted
    exact unquoted.1.1
  have indexes : nodeIndexes helm values =
      (List.range (helm.int (values.field "replicas")).toNat).map Int.ofNat :=
    lawful.untilStep _
  have named : names = (nodeIndexes helm values).map (indexed helm values) := by
    rw [nodes_eq yamlLawful unquoted deployed] at rendered
    refine mapM_eq_map (fun index member found shown => ?_) rendered
    rw [indexes] at member
    obtain ⟨number, -, rfl⟩ := List.mem_map.mp member
    exact ((Yaml.Library.text_tree_scalar yamlLawful
      (.inl (isPlain_indexed plain number))).mp shown).2.symm
  rw [NodepoolConfig.nodeNames, rendered, Option.getD_some, named, indexes, List.map_map,
    NodepoolConfig.renderedAs, deployed]
  rfl

/-- A pool whose texts need no quotes is created if YAML makes strings of its names. -/
theorem created_of_texts (yamlLawful : yaml.Lawful) (valid : cfg.validate = .ok ())
    (fits : cfg.count < 2 ^ 63) (accepted : helm.accepts cfg.name = true)
    (unquoted : cfg.needsNoQuotes yaml helm = true)
    (nodes : (cfg.nodeValues helm).any (fun values => ((nodeIndexes helm values).mapM fun index =>
      (yaml.tree (.scalar (indexed helm values index))).text).isSome) = true)
    (controllers : (cfg.controllerValues helm).any (fun values => (StatefulSet.ofTree
      (.mapping (yaml.treeEntries (statefulSetDocument helm values)))).isSome) = true) :
    cfg.Created yaml helm := by
  refine ⟨valid, fits, accepted, ?_, ?_⟩
  · cases deployed : cfg.nodeValues helm with
    | none => rw [deployed] at nodes; cases nodes
    | some values =>
        rw [deployed] at nodes
        rwa [nodes_eq yamlLawful unquoted deployed]
  · cases deployed : cfg.controllerValues helm with
    | none => rw [deployed] at controllers; cases controllers
    | some values =>
        rw [deployed] at controllers
        rwa [statefulSet_eq yamlLawful unquoted deployed]

end Nodes

/-! All pools. -/

section Pools

variable {yaml : Yaml.Library} {helm : HelmLibrary} {pools : List NodepoolConfig}

theorem eachManaged_iff (lawful : helm.Lawful yaml) (yamlLawful : yaml.Lawful)
    (created : ∀ pool ∈ pools, pool.Created yaml helm)
    (unquoted : ∀ pool ∈ pools, pool.needsNoQuotes yaml helm = true)
    (once : (pools.map NodepoolConfig.name).Nodup) :
    EachManaged yaml helm pools ↔
      (pools.map fun pool => pool.renderedAs helm).Perm
        (pools.map fun pool => (pool.name, pool.count)) := by
  have nodes : pools.flatMap (·.nodeNames yaml helm) =
      (pools.map fun pool => pool.renderedAs helm).flatMap numberedPair := by
    rw [List.flatMap_map]
    refine List.flatMap_congr fun pool member => ?_
    exact nodeNames_of_created lawful yamlLawful (created pool member) (unquoted pool member)
  have pods : pools.flatMap (·.podNames yaml helm) =
      (pools.map fun pool => (pool.name, pool.count)).flatMap numberedPair := by
    rw [List.flatMap_map]
    refine List.flatMap_congr fun pool member => ?_
    exact podNames_of_created lawful yamlLawful (created pool member) (unquoted pool member)
  have positive : ∀ pair ∈ pools.map fun pool => (pool.name, pool.count), 0 < pair.2 := by
    intro pair member
    obtain ⟨pool, inside, rfl⟩ := List.mem_map.mp member
    exact (NodepoolConfig.validate_eq_ok.mp (created pool inside).valid).1.1
  have names : ((pools.map fun pool => (pool.name, pool.count)).map Prod.fst).Nodup := by
    rwa [List.map_map]
  rw [← numberedPairs_iff (by rw [List.length_map, List.length_map]) positive names, ← nodes,
    ← pods]
  constructor
  · exact fun managed => ⟨managed.distinct, managed.same⟩
  · rintro ⟨distinct, same⟩
    exact ⟨distinct, same, fun pool _ => pods_manage pool⟩

end Pools

/-! The loop of `nodepool batch-add`. -/

section Batches

variable {flags : NodepoolFlags} {nodepoolName : String} {totalNodes batchSize : Int}

@[simp] theorem configure_opts_count (name : String) (nodes : Int) :
    (NodepoolConfig.configure name (flags.opts nodes)).count = nodes := rfl

/-- The pools created from batch `first` on: their sizes, their names and the
number of nodes left to them. -/
structure Batched (nodepoolName : String) (batchSize : Int) (first : Nat) (left : Int)
    (pools : List NodepoolConfig) : Prop where
  sizes : ∀ pool ∈ pools, 1 ≤ pool.count ∧ pool.count ≤ batchSize
  names : pools.map NodepoolConfig.name =
    (List.range' first pools.length).map fun batch => nodepoolName ++ "-" ++ toString batch
  total : (pools.map NodepoolConfig.count).sum = left

theorem batches_from (flags : NodepoolFlags) (nodepoolName : String) (positive : 0 < batchSize)
    (fits : totalNodes + batchSize < 2 ^ 63) (fuel first : Nat)
    (enough : max 0 (totalNodes - first * batchSize) < fuel) :
    ∃ pools, batches flags nodepoolName totalNodes batchSize fuel (first * batchSize) =
        some pools ∧
      Batched nodepoolName batchSize first (max 0 (totalNodes - first * batchSize)) pools := by
  induction fuel generalizing first with
  | zero => omega
  | succ fuel ih =>
      have start : (0 : Int) ≤ first * batchSize :=
        Int.mul_nonneg (Int.natCast_nonneg first) positive.le
      have next : ((first + 1 : Nat) : Int) * batchSize = first * batchSize + batchSize := by
        rw [Nat.cast_add, Nat.cast_one, add_mul, one_mul]
      rw [batches]
      by_cases more : first * batchSize < totalNodes
      · have advanced : addInt64 (first * batchSize) batchSize = (first + 1 : Nat) * batchSize := by
          rw [next]
          exact addInt64_eq (by omega) (by omega)
        have index : ((first : Int) * batchSize).tdiv batchSize = first :=
          Int.mul_tdiv_cancel _ positive.ne'
        obtain ⟨rest, continued, batched⟩ := ih (first + 1) (by rw [next]; omega)
        rw [if_pos more, advanced, continued, index]
        refine ⟨_, rfl, ?_, ?_, ?_⟩
        · intro pool member
          cases List.mem_cons.mp member with
          | inl same =>
              subst pool
              rw [configure_opts_count, next]
              split_ifs <;> omega
          | inr later => exact batched.sizes pool later
        · rw [List.map_cons, batched.names, List.length_cons, List.range'_succ, List.map_cons]
          rfl
        · rw [List.map_cons, List.sum_cons, batched.total, configure_opts_count, next]
          split_ifs <;> omega
      · rw [if_neg more]
        refine ⟨[], rfl, by nofun, rfl, ?_⟩
        simp only [List.map_nil, List.sum_nil]
        omega

theorem Batched.nodup {first : Nat} {left : Int} {pools : List NodepoolConfig}
    (batched : Batched nodepoolName batchSize first left pools) :
    (pools.map NodepoolConfig.name).Nodup := by
  rw [batched.names]
  have distinct : (List.range' first pools.length).Nodup := List.nodup_range'
  exact distinct.map fun _ _ same => (Decimal.dash_inj same).2

end Batches

namespace CoreSchema

def reads (text : String) : Option Yaml.Scalar :=
  if text = "" ∨ text = "null" then some .null
  else if text = "true" then some (.bool true)
  else if text = "false" then some (.bool false)
  else (Decimal.number text.toList).map fun number : Nat => .number (number : Rat)

def yaml : Yaml.Library := Yaml.Reader.library reads

theorem number_digits {letters : List Char} {number : Nat}
    (read : Decimal.number letters = some number) :
    letters ≠ [] ∧ ∀ char ∈ letters, char.isDigit = true := by
  rw [Decimal.number] at read
  split at read
  · cases read
  · rename_i digits
    simpa using digits

theorem isDigit_of_isAlpha {char : Char} (alpha : char.isAlpha = true) : char.isDigit = false := by
  rw [Bool.eq_false_iff]
  intro digit
  obtain ⟨low, high⟩ := Bool.and_eq_true_iff.mp digit
  have below : char.toNat ≤ 57 := of_decide_eq_true high
  cases Bool.or_eq_true_iff.mp alpha with
  | inl upper =>
      obtain ⟨start, -⟩ := of_decide_eq_true upper
      have above : 65 ≤ char.toNat := start
      omega
  | inr lower =>
      obtain ⟨start, -⟩ := Bool.and_eq_true_iff.mp lower
      have above : 97 ≤ char.toNat := of_decide_eq_true start
      omega

theorem reads_word {text : String} (word : Yaml.isWord text = true) : reads text = none := by
  rw [Yaml.isWord, Bool.and_eq_true, Bool.not_eq_true'] at word
  have other {reserved : String} (listed : reserved ∈ Yaml.reservedWords) : text ≠ reserved := by
    rintro rfl
    rw [List.contains_iff_mem.mpr listed] at word
    cases word.2
  have present : text ≠ "" := by
    rintro rfl
    cases word.1
  have noNumber : Decimal.number text.toList = none := by
    rw [Option.eq_none_iff_forall_ne_some]
    intro number read
    obtain ⟨nonempty, digits⟩ := number_digits read
    obtain ⟨first, rest, letters⟩ := List.exists_cons_of_ne_nil nonempty
    rw [letters] at digits
    rw [letters, List.head?_cons, Option.any_some] at word
    exact absurd (digits first List.mem_cons_self) (by simp [isDigit_of_isAlpha word.1])
  rw [reads, if_neg (by simp [present, other (by decide : "null" ∈ Yaml.reservedWords)]),
    if_neg (other (by decide)), if_neg (other (by decide)), noNumber, Option.map_none]

theorem reads_shaped {text : String} (known : (reads text).isSome = true) :
    text = "" ∨ Yaml.isPlain text = true := by
  rw [reads] at known
  split at known
  · rename_i word
    cases word with
    | inl empty => exact .inl empty
    | inr null =>
        subst text
        exact .inr (by decide)
  · split at known
    · subst text
      exact .inr (by decide)
    · split at known
      · subst text
        exact .inr (by decide)
      · rw [Option.isSome_map] at known
        obtain ⟨number, read⟩ := Option.isSome_iff_exists.mp known
        obtain ⟨nonempty, digits⟩ := number_digits read
        have alphanum : ∀ char ∈ text.toList, char.isAlphanum = true := by
          intro char member
          rw [Char.isAlphanum, digits char member, Bool.or_true]
        obtain ⟨first, rest, letters⟩ := List.exists_cons_of_ne_nil nonempty
        refine .inr (Yaml.isPlain_of_isNameChar (fun char member => ?_) ?_)
        · rw [Yaml.isNameChar, alphanum char member]
          rfl
        · rw [letters, List.head?_cons, Option.any_some]
          exact alphanum first (letters ▸ List.mem_cons_self)

theorem reads_number (size : Nat) : reads (toString size) = some (.number (size : Rat)) := by
  have read : Decimal.number (toString size).toList = some size := by
    rw [Nat.toString_eq_ofList_toDigits, String.toList_ofList, Decimal.number_toDigits]
  have differs {word : String} (noNumber : Decimal.number word.toList = none) :
      toString size ≠ word := by
    intro same
    rw [same, noNumber] at read
    cases read
  have noNull : ¬(toString size = "" ∨ toString size = "null") :=
    not_or.mpr ⟨differs rfl, differs rfl⟩
  rw [reads, if_neg noNull, if_neg (differs rfl), if_neg (differs rfl), read, Option.map_some]

theorem lawful : yaml.Lawful := by
  refine Yaml.Reader.lawful (fun text shown => ?_) rfl (fun text word => reads_word word)
    fun text known => reads_shaped known
  simp only [reads]
  split_ifs <;> simp

end CoreSchema

/-! Helm's `--set` syntax as far as plain assignments go: commas separate assignments,
decimal numbers are integers. -/

namespace SetSyntax

def set (values : Values Leaf) (key : String) (leaf : Leaf) : Values Leaf :=
  values.applyValues ⟨[⟨key, .leaf leaf⟩], .cons List.not_mem_nil .leaf .nil⟩

def readScalar (text : String) : Leaf :=
  let number := Nat.ofDigitChars 10 text.toList 0
  if toString number = text ∧ number < 2 ^ 63 then .int number else .text text

def assign (values : Values Leaf) (part : List Char) : Option (Values Leaf) :=
  match part.dropWhile (· ≠ '=') with
  | [] => none
  | _ :: value =>
      some (set values (String.ofList (part.takeWhile (· ≠ '='))) (readScalar (String.ofList value)))

def shown : ValueTree String Leaf → String
  | .leaf (.text text) => text
  | .leaf (.bool value) => toString value
  | .leaf (.int number) => toString number
  | .leaf (.float number) => toString number
  | _ => ""

def helm : HelmLibrary where
  parseInto := fun text values => (text.toList.splitOn ',').foldlM assign values
  shown := shown
  int := fun
    | .leaf (.float number) => number
    | _ => 0
  untilStep := fun _ stop _ => (List.range stop.toNat).map Int.ofNat
  accepts := isReleaseName

theorem assigned_set (values : Values Leaf) (key : String) (leaf : Leaf) :
    values.Assigned key leaf (set values key leaf) where
  here := by
    refine Values.get_applyValues_value (ValueTree.Same.refl _) ?_
    rw [Values.get, Values.tree, ValueTree.get_map_cons, List.dlookup_cons_eq]
    rfl
  others other path differs := by
    refine Values.get_applyValues_absent ?_ path
    rw [Values.get, Values.tree, ValueTree.get_map_cons, List.dlookup_cons_ne _ _ differs]
    rfl

theorem readScalar_number {number : Nat} (fits : number < 2 ^ 63) :
    readScalar (toString number) = .int number := by
  have read : Nat.ofDigitChars 10 (toString number).toList 0 = number := by
    rw [Nat.toString_eq_ofList_toDigits, String.toList_ofList, Nat.ofDigitChars_ten_toDigits]
  rw [readScalar, read, if_pos ⟨rfl, fits⟩]

theorem readFrom_readScalar (text : String) : (readScalar text).ReadFrom text := by
  unfold readScalar
  dsimp only
  split
  · rename_i number
    exact .int (Int.natCast_nonneg _) (by exact_mod_cast number.2)
  · exact .text

theorem parseInto_plain (text : String) {key : String}
    (keyPlain : ∀ char ∈ key.toList, char ≠ ',' ∧ char ≠ '=')
    (textPlain : ∀ char ∈ text.toList, char ≠ ',') (values : Values Leaf) :
    helm.parseInto (key ++ "=" ++ text) values = some (set values key (readScalar text)) := by
  have spelled : (key ++ "=" ++ text).toList = key.toList ++ '=' :: text.toList := by simp
  have whole : (key.toList ++ '=' :: text.toList).splitOn ',' =
      [key.toList ++ '=' :: text.toList] := by
    refine List.splitOnP_eq_singleton fun char member => ?_
    simp only [List.mem_append, List.mem_cons] at member
    rcases member with inKey | rfl | inText
    · simpa using (keyPlain char inKey).1
    · decide
    · simpa using textPlain char inText
  have keyPart : ∀ char ∈ key.toList, decide (char ≠ '=') = true :=
    fun char member => decide_eq_true (keyPlain char member).2
  have assigned : assign values (key.toList ++ '=' :: text.toList) =
      some (set values key (readScalar text)) := by
    rw [assign, List.dropWhile_append_of_pos keyPart, List.takeWhile_append_of_pos keyPart]
    simp
  simp only [helm, spelled, whole, List.foldlM_cons, assigned, List.foldlM_nil]
  rfl

theorem ne_comma {letters : List Char} (names : ∀ char ∈ letters, Yaml.isNameChar char = true) :
    ∀ char ∈ letters, char ≠ ',' := by
  rintro char member rfl
  exact absurd (names ',' member) (by decide)

theorem keys_plain :
    ∀ key ∈ ["name", "replicas"], ∀ char ∈ key.toList, char ≠ ',' ∧ char ≠ '=' :=
  List.forall_mem_cons.mpr ⟨List.all_iff_forall_prop.mp (by decide),
    List.forall_mem_singleton.mpr (List.all_iff_forall_prop.mp (by decide))⟩

theorem lawful : helm.Lawful CoreSchema.yaml where
  assigns key known text named values :=
    ⟨readScalar text, _, parseInto_plain text (keys_plain key known)
      (ne_comma (Helmcli.isNameChar_of_isReleaseName named)) values,
      assigned_set values key _, readFrom_readScalar text⟩
  integers key known number low high values := by
    obtain ⟨size, rfl⟩ := Int.eq_ofNat_of_zero_le low
    have parsed := parseInto_plain (toString size) (keys_plain key known)
      (ne_comma (isNameChar_digits size)) values
    rw [readScalar_number (by omega)] at parsed
    exact ⟨_, parsed, assigned_set values key _⟩
  text _ _ := rfl
  null := rfl
  bool value := by cases value <;> rfl
  number number low _ := by
    obtain ⟨size, rounded⟩ := Int.eq_ofNat_of_zero_le (Helmcli.roundFloat64_nonneg low)
    rw [rounded]
    exact CoreSchema.reads_number size
  untilStep _ := rfl
  accepts _ accepted := accepted

end SetSyntax

/-- Two pools whose names run into each other, the second one with a provider ID. -/
def neighbourPools : List NodepoolConfig :=
  [.configure "pool" [.countOpt 2], .configure "pool-1" [.countOpt 1, .sharedProviderID "aws-i-1"]]

/-- A pool whose provider ID names the Nodes differently. -/
def overriddenPools : List NodepoolConfig :=
  [.configure "pool-a" [.countOpt 1, .sharedProviderID "x,name=pool-b"]]

theorem pools_unquoted : ∀ pool ∈ neighbourPools ++ overriddenPools,
    pool.needsNoQuotes CoreSchema.yaml SetSyntax.helm = true := by
  decide +kernel

theorem pools_created : ∀ pool ∈ neighbourPools ++ overriddenPools,
    pool.Created CoreSchema.yaml SetSyntax.helm := by
  have checked : ∀ pool ∈ neighbourPools ++ overriddenPools, pool.validate = .ok () ∧
      pool.count < 2 ^ 63 ∧ SetSyntax.helm.accepts pool.name = true := by decide +kernel
  have nodes : ∀ pool ∈ neighbourPools ++ overriddenPools, (pool.nodeValues SetSyntax.helm).any
      (fun values => ((nodeIndexes SetSyntax.helm values).mapM fun index => (CoreSchema.yaml.tree
        (.scalar (indexed SetSyntax.helm values index))).text).isSome) = true := by decide +kernel
  have controllers : ∀ pool ∈ neighbourPools ++ overriddenPools,
      (pool.controllerValues SetSyntax.helm).any (fun values => (StatefulSet.ofTree
        (.mapping (CoreSchema.yaml.treeEntries
          (statefulSetDocument SetSyntax.helm values)))).isSome) = true := by decide +kernel
  intro pool member
  obtain ⟨valid, fits, accepted⟩ := checked pool member
  exact created_of_texts CoreSchema.lawful valid fits accepted (pools_unquoted pool member)
    (nodes pool member) (controllers pool member)

end Kperf.VirtualCluster
