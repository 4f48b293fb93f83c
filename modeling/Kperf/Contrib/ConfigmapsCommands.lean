import Kperf.Contrib.ConfigmapsProperties
import Kperf.Library.ObjectSetsInvariant

/-! `runkperf data configmap add` and `delete` in a namespace that is in place, any
number of them at once. The name of a set is pasted into the selector of `delete`, so it
is taken to be a label value; the server that reads the selector is a parameter. -/

set_option autoImplicit false

namespace Kperf.Contrib.Configmaps

open Outcome
open ObjectSets (Kind State)
open LabelSelector (EqualsServer isLabelValue)

/-- The selector that `delete` lists a set by. -/
def labelSelector (cmName : String) : String := LabelSelector.equalsText appLebel "cmName" cmName

/-- The set that the labels of a config map put it in. -/
def ConfigMap.set (cm : ConfigMap) : Option String :=
  if cm.labels.lookup "app" = some appLebel then cm.labels.lookup "cmName" else none

/-- The set that `createConfigmaps` can give a name to. -/
def nameSet (name : String) : Option String :=
  (Decimal.numbered name).bind fun front =>
    (front.toList.dropPrefix? (appLebel ++ "-cm-").toList).map String.ofList

/-- What the draws of one `randString` come to. -/
abbrev Draws := Nat → Except String (Fin letterRunes.length)

/-- The arguments of an `add` that passes its checks, those of the server on the label
included; the loop variable does not wrap. -/
@[ext]
structure AddArgs where
  cmName : String
  labelled : isLabelValue cmName = true
  size : Int
  groupSize : Int
  total : Int
  accepted : checkConfigmapParams size groupSize total = .ok ()
  fits : total + groupSize < 2 ^ 63

instance : DecidableEq AddArgs := fun _ _ => decidable_of_iff _ AddArgs.ext_iff.symm

namespace AddArgs

variable (args : AddArgs)

/-- One round of the loop: the owner and the index of every goroutine it starts. -/
def group (i : Int) : Option (List (Nat × Nat) × Int) :=
  if i < args.total then
    some ((indices i (min (addInt64 i args.groupSize) args.total)).map
      fun j => (i.toNat, j.toNat), addInt64 i args.groupSize)
  else none

/-- The config map of a goroutine. -/
def build (item : Nat × Nat) (random : Draws) : Except String ConfigMap :=
  match randString random args.size with
  | .ok data => .ok (newConfigmap args.cmName item.1 item.2 data)
  | .error fault =>
      .error ("failed to generate random string for configmap " ++
        configmapName args.cmName item.2 ++ ": " ++ fault.message)

end AddArgs

theorem nameSet_configmapName (cmName : String) (j : Nat) :
    nameSet (configmapName cmName j) = some cmName := by
  have shape : configmapName cmName j = (appLebel ++ "-cm-" ++ cmName) ++ "-" ++ toString j := rfl
  have dropped : (appLebel ++ "-cm-" ++ cmName).toList.dropPrefix? (appLebel ++ "-cm-").toList =
      some cmName.toList := by
    rw [String.toList_append]
    exact List.dropPrefix?_append_of_beq _ (BEq.rfl)
  rw [nameSet, shape, Decimal.numbered_eq, Option.bind_some, dropped]
  simp

theorem set_newConfigmap (cmName : String) (ownerID j : Int) (data : String) :
    (newConfigmap cmName ownerID j data).set = some cmName := by
  have app : (newConfigmap cmName ownerID j data).labels.lookup "app" = some appLebel := rfl
  rw [ConfigMap.set, if_pos app]
  rfl

theorem AddArgs.build_eq_ok {args : AddArgs} {item : Nat × Nat} {random : Draws} {cm : ConfigMap}
    (built : args.build item random = .ok cm) :
    ∃ data, cm = newConfigmap args.cmName item.1 item.2 data := by
  unfold AddArgs.build at built
  split at built
  · rename_i data _
    cases built
    exact ⟨data, rfl⟩
  · cases built

theorem selects_labelSelector (server : EqualsServer appLebel "cmName")
    (value : LabelSelector.LabelValue) (cm : ConfigMap) :
    server.selects (labelSelector value.text) cm.labels = true ↔ cm.set = some value.text := by
  rw [labelSelector, server.equals, ConfigMap.set]
  by_cases app : cm.labels.lookup "app" = some appLebel
  · simp [LabelSelector.has, app]
  · simp [LabelSelector.has, app]

/-- `createConfigmaps` and `deleteConfigmaps`, which deletes 300 at a time. -/
def kind (server : EqualsServer appLebel "cmName") (namespaceName : String) :
    Kind ConfigMap AddArgs (Nat × Nat) Draws where
  name := ConfigMap.name
  set := ConfigMap.set
  selects := fun cmName cm => server.selects (labelSelector cmName) cm.labels
  owner := nameSet
  batch := 300
  listFailed := fun message => "failed to list configmaps: " ++ message
  noneFound := "no configmaps set found in namespace: " ++ namespaceName
  createFailed := fun name message => "failed to create configmap " ++ name ++ ": " ++ message
  deleteFailed := fun name message => "failed to delete configmap " ++ name ++ ": " ++ message
  taken := fun name => "configmaps " ++ Format.quote name ++ " already exists"
  target := AddArgs.cmName
  groups := AddArgs.group
  itemName := fun args item => configmapName args.cmName item.2
  build := AddArgs.build
  exact := selects_labelSelector server
  owned := fun args item => nameSet_configmapName args.cmName item.2
  made := by
    intro args item random cm built
    obtain ⟨data, rfl⟩ := AddArgs.build_eq_ok built
    exact ⟨rfl, set_newConfigmap args.cmName item.1 item.2 data⟩

section Loop

variable {server : EqualsServer appLebel "cmName"} {namespaceName : String}

/-- The groups up to a value of the loop variable hold every index below it. -/
theorem AddArgs.traverses_covers {args : AddArgs} {next : Int} {passed : List (Nat × Nat)}
    (traverses : (kind server namespaceName).Traverses args next passed) :
    0 ≤ next ∧ next < args.total + args.groupSize ∧
      ∀ j : Nat, (j : Int) < next → (j : Int) < args.total → ∃ ownerID, (ownerID, j) ∈ passed := by
  obtain ⟨-, positive, nonempty, -⟩ := checkConfigmapParams_eq_ok.mp args.accepted
  have fits := args.fits
  induction traverses with
  | start => exact ⟨by omega, by omega, fun j below => by omega⟩
  | @group next after passed group traverses found ih =>
      obtain ⟨low, high, covered⟩ := ih
      change args.group next = some (group, after) at found
      unfold AddArgs.group at found
      split_ifs at found with inside
      cases found
      have forward : addInt64 next args.groupSize = next + args.groupSize :=
        addInt64_eq (by omega) (by omega)
      rw [forward]
      refine ⟨by omega, by omega, fun j below within => ?_⟩
      by_cases earlier : (j : Int) < next
      · obtain ⟨ownerID, member⟩ := covered j earlier within
        exact ⟨ownerID, List.mem_append_left _ member⟩
      · refine ⟨next.toNat, List.mem_append_right _ (List.mem_map.mpr ⟨j, ?_, by simp⟩)⟩
        exact mem_indices.mpr ⟨by omega, by omega⟩

/-- Once the loop is over, every index has had its goroutine. -/
theorem AddArgs.ended_covers {args : AddArgs} {next : Int} {passed : List (Nat × Nat)}
    (traverses : (kind server namespaceName).Traverses args next passed)
    (ended : (kind server namespaceName).groups args next = none) {j : Nat}
    (within : j < args.total) :
    ∃ ownerID, (ownerID, j) ∈ passed := by
  change args.group next = none at ended
  unfold AddArgs.group at ended
  split_ifs at ended with past
  obtain ⟨-, -, covered⟩ := AddArgs.traverses_covers traverses
  exact covered j (by omega) within

end Loop

/-- The commands at work in a namespace. -/
def commands (server : EqualsServer appLebel "cmName") (namespaceName : String)
    (before : StringMap ConfigMap) :
    TransitionSystem (State ConfigMap AddArgs (Nat × Nat))
      (ObjectSets.Label AddArgs (Nat × Nat) Draws) :=
  ObjectSets.system (kind server namespaceName) before

/-- Config maps with the labels of a set have names of the set. -/
def Named (stored : StringMap ConfigMap) : Prop :=
  ∀ {name cm set}, stored.lookup name = some cm → cm.set = some set → nameSet name = some set

theorem named_empty : Named ∅ := by
  intro name cm set found
  cases found

theorem Named.insert {stored : StringMap ConfigMap} (named : Named stored) {name : String}
    {cm : ConfigMap} (own : ∀ set, cm.set = some set → nameSet name = some set) :
    Named (stored.insert name cm) := by
  intro other found set stores labelled
  by_cases same : other = name
  · subst same
    rw [AList.lookup_insert] at stores
    cases stores
    exact own set labelled
  · rw [AList.lookup_insert_ne same] at stores
    exact named stores labelled

namespace Sample

/-- The config map that every namespace holds. -/
def foreign : ConfigMap := ⟨"kube-root-ca.crt", ∅, AList.singleton "ca.crt" "…"⟩

/-- A namespace with a set of one config map. -/
def shared : StringMap ConfigMap :=
  ((∅ : StringMap ConfigMap).insert "runkperf-cm-warm-0" (newConfigmap "warm" 0 0 "aa")).insert
    "kube-root-ca.crt" foreign

theorem shared_named : Named shared := by
  refine Named.insert (Named.insert named_empty ?_) ?_
  · intro set labelled
    cases (set_newConfigmap "warm" 0 0 "aa").symm.trans labelled
    exact nameSet_configmapName "warm" 0
  · intro set labelled
    cases labelled

def args : AddArgs := ⟨"warm", by decide, 2, 1, 1, by decide, by decide⟩

def warm : LabelSelector.LabelValue := ⟨"warm", by decide⟩

def server : EqualsServer appLebel "cmName" := .reading appLebel "cmName"

def random : Draws := fun _ => .ok ⟨0, Nat.zero_lt_succ 51⟩

/-- Two deletions list the same set, each finds what the other has deleted, and an
addition begun in between creates the set anew. -/
def overlapping : List (ObjectSets.Label AddArgs (Nat × Nat) Draws) :=
  [.start 1 (.delete warm), .start 2 (.delete warm), .list 1 .stored none,
    .list 2 .stored none, .delete 1 "runkperf-cm-warm-0" .none, .delete 2 "runkperf-cm-warm-0" .none,
    .start 3 (.add args), .create 3 (0, 0) random .none, .join 1, .join 2, .join 3]

/-- Two additions of one set, of which the second is late. -/
def competing : List (ObjectSets.Label AddArgs (Nat × Nat) Draws) :=
  [.start 1 (.add args), .start 2 (.add args), .create 1 (0, 0) random .none,
    .create 2 (0, 0) random .none, .join 1, .join 2]

end Sample

section Runs

variable {server : EqualsServer appLebel "cmName"} {namespaceName : String}
variable {before : StringMap ConfigMap}
variable {trace : List (ObjectSets.Label AddArgs (Nat × Nat) Draws)}
variable {state : State ConfigMap AddArgs (Nat × Nat)}

/-- Whatever runs at the same time, a deletion touches nothing but its own set. One that
returns without an error leaves nothing of the set that was there when it listed it, and
an error comes from a call that failed or from an empty listing. -/
theorem deletes_safe (named : Named before)
    (run : (commands server namespaceName before).Run trace state) :
    (∀ {name cm}, before.lookup name = some cm → (∀ set ∈ state.begun, cm.set ≠ some set) →
      state.stored.lookup name = some cm) ∧
    (∀ {id set mark}, state.processes id = some (.deleted set mark none) →
      ∀ {name cm}, state.stored.lookup name = some cm → cm.set = some set →
        name ∈ state.since mark) ∧
    ∀ {id set mark message}, state.processes id = some (.deleted set mark (some message)) →
      id ∈ state.faulted ∨ message = "no configmaps set found in namespace: " ++ namespaceName := by
  have sound := ObjectSets.sound_of_run named run
  refine ⟨sound.kept, ?_, fun returned => sound.fits returned⟩
  intro id set mark returned name cm found labelled
  rcases (sound.fits returned).covers rfl found labelled with none | none | since
  · cases none
  · cases none
  · exact since

theorem deletes_safe_overlapping :
    ∃ state, (commands Sample.server "default" Sample.shared).Run Sample.overlapping state ∧
      state.processes 1 = some (.deleted "warm" 0 none) ∧
      state.processes 2 = some (.deleted "warm" 0 none) ∧
      "runkperf-cm-warm-0" ∈ state.since 0 ∧
      state.stored.lookup "kube-root-ca.crt" = some Sample.foreign := by
  obtain ⟨state, executed, first, second, stored⟩ :
      ∃ state ∈ (commands Sample.server "default" Sample.shared).execute
        (ObjectSets.init AddArgs (Nat × Nat) Sample.shared) Sample.overlapping,
        state.processes 1 = some (.deleted "warm" 0 none) ∧
        state.processes 2 = some (.deleted "warm" 0 none) ∧
        ((state.stored.lookup "runkperf-cm-warm-0").bind ConfigMap.set) = some "warm" ∧
        state.begun = ["warm", "warm"] := by decide +kernel
  obtain ⟨created, begun⟩ := stored
  obtain ⟨cm, found, labelled⟩ := Option.bind_eq_some_iff.mp created
  have run := TransitionSystem.runWith_of_executeWith rfl executed
  obtain ⟨kept, leaves, -⟩ := deletes_safe Sample.shared_named run
  refine ⟨state, run, first, second, leaves first found labelled, kept rfl ?_⟩
  intro set member labelled
  cases labelled

/-- An addition that returns without an error has created every config map of its set
itself, and they stay until a deletion of the set is begun. Until then no two additions of
a set succeed. An error comes from a call that failed or from a name in use. -/
theorem adds_safe (named : Named before)
    (run : (commands server namespaceName before).Run trace state) :
    (∀ {id args passed}, state.processes id = some (.added args passed none) →
      ∀ {j : Nat}, j < args.total → (id, configmapName args.cmName j) ∈ state.log ∧
        (args.cmName ∉ state.begun → ∃ cm,
          state.stored.lookup (configmapName args.cmName j) = some cm ∧
            cm.set = some args.cmName)) ∧
    (∀ {first second args others passed more},
      state.processes first = some (.added args passed none) →
      state.processes second = some (.added others more none) →
      args.cmName = others.cmName → args.cmName ∉ state.begun → first = second) ∧
    ∀ {id args passed message},
      state.processes id = some (.added args passed (some message)) →
      id ∈ state.faulted ∨ ∃ name, message = "failed to create configmap " ++ name ++ ": " ++
        ("configmaps " ++ Format.quote name ++ " already exists") := by
  have sound := ObjectSets.sound_of_run named run
  have creates : ∀ {id args passed},
      state.processes id = some (.added args passed none) →
      ∀ {j : Nat}, j < args.total → (id, configmapName args.cmName j) ∈ state.log := by
    intro id args passed returned j within
    obtain ⟨adds, traversed⟩ := sound.fits returned
    obtain ⟨next, traverses, ended⟩ := traversed rfl
    obtain ⟨ownerID, member⟩ := AddArgs.ended_covers traverses ended within
    rcases adds.created rfl _ member with none | logged
    · cases none
    · exact logged
  refine ⟨?_, ?_, fun returned => (sound.fits returned).1.cause _ rfl⟩
  · intro id args passed returned j within
    have logged := creates returned within
    refine ⟨logged, fun unbegun => ?_⟩
    obtain ⟨set, owner, stays⟩ := sound.logged logged
    cases (nameSet_configmapName args.cmName j).symm.trans owner
    exact stays unbegun
  · intro first second args others passed more returned also same unbegun
    -- both would have created the config map of index zero
    obtain ⟨-, -, nonempty, -⟩ := checkConfigmapParams_eq_ok.mp args.accepted
    obtain ⟨-, -, filled, -⟩ := checkConfigmapParams_eq_ok.mp others.accepted
    have own := creates returned (j := 0) nonempty
    have their := creates also (j := 0) filled
    rw [← same] at their
    exact sound.once own their (nameSet_configmapName args.cmName 0) unbegun

theorem adds_safe_competing :
    ∃ state, (commands Sample.server "default" ∅).Run Sample.competing state ∧
      state.processes 1 = some (.added Sample.args [(0, 0)] none) ∧
      (state.stored.lookup (configmapName "warm" 0)).isSome = true ∧
      ∃ message, state.processes 2 = some (.added Sample.args [(0, 0)] (some message)) ∧
        ∃ name, message = "failed to create configmap " ++ name ++ ": " ++
          ("configmaps " ++ Format.quote name ++ " already exists") := by
  obtain ⟨state, executed, first, ⟨message, -, second⟩, begun, faulted⟩ :
      ∃ state ∈ (commands Sample.server "default" ∅).execute (ObjectSets.init AddArgs (Nat × Nat) ∅)
        Sample.competing,
        state.processes 1 = some (.added Sample.args [(0, 0)] none) ∧
        (∃ message ∈ some ("failed to create configmap runkperf-cm-warm-0: " ++
          "configmaps \"runkperf-cm-warm-0\" already exists"),
          state.processes 2 = some (.added Sample.args [(0, 0)] (some message))) ∧
        state.begun = [] ∧ state.faulted = [] := by decide +kernel
  have run := TransitionSystem.runWith_of_executeWith rfl executed
  obtain ⟨created, -, cause⟩ := adds_safe named_empty run
  obtain ⟨cm, found, -⟩ := (created first (j := 0) (by decide)).2 (by simp [begun])
  refine ⟨state, run, first, Option.isSome_iff_exists.mpr ⟨cm, found⟩, message, second, ?_⟩
  rcases cause second with failed | taken
  · rw [faulted] at failed
    cases failed
  · exact taken

end Runs

end Kperf.Contrib.Configmaps
