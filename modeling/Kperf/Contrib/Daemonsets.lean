import Kperf.Library.Decimal
import Kperf.Library.ObjectSetsInvariant

/-! `runkperf data daemonset`: `add`, `delete` and `list` in a namespace that is in place,
any number of them at once. Additions and deletions make one call after another. The names
of sets are pasted into selectors, so they are taken to be label values; the server that
reads the selectors is a parameter. -/

set_option autoImplicit false

namespace Kperf.Contrib.Daemonsets

open Outcome
open ObjectSets (Kind State)
open LabelSelector (WithinServer LabelValue isLabelValue)

def appLabel : String := "fake-daemonset"

structure DaemonSet where
  name : String
  labels : StringMap String

def daemonsetName (dsName : String) (i : Nat) : String := dsName ++ "-" ++ toString i

def newDaemonset (dsName : String) (i : Nat) : DaemonSet where
  name := daemonsetName dsName i
  labels := ((AList.singleton "idx" (toString i)).insert "dsName" dsName).insert "app" appLabel

/-- The selector of `list` by its arguments, and of `delete` by its one. -/
def labelSelector (names : List String) : String := LabelSelector.withinText appLabel "dsName" names

/-- The set that the labels of a daemon set put it in. -/
def DaemonSet.set (ds : DaemonSet) : Option String :=
  if ds.labels.lookup "app" = some appLabel then ds.labels.lookup "dsName" else none

theorem set_newDaemonset (dsName : String) (i : Nat) : (newDaemonset dsName i).set = some dsName := by
  have app : (newDaemonset dsName i).labels.lookup "app" = some appLabel := rfl
  rw [DaemonSet.set, if_pos app]
  rfl

/-- The arguments of an `add` that passes its check, and that of the server on the label. -/
@[ext]
structure AddArgs where
  dsName : String
  labelled : isLabelValue dsName = true
  count : Int
  positive : 0 < count
  fits : count < 2 ^ 63

instance : DecidableEq AddArgs := fun _ _ => decidable_of_iff _ AddArgs.ext_iff.symm

theorem selects_labelSelector (server : WithinServer appLabel "dsName") (value : LabelValue)
    (ds : DaemonSet) :
    server.selects (labelSelector [value.text]) ds.labels = true ↔ ds.set = some value.text := by
  have selected := server.within [value] ds.labels
  rw [labelSelector, show [value.text] = [value].map LabelValue.text from rfl, selected,
    DaemonSet.set]
  by_cases app : ds.labels.lookup "app" = some appLabel
  · simp [LabelSelector.has, app]
  · simp [LabelSelector.has, app]

/-- `createDaemonsets` and `deleteDaemonsets`. -/
def kind (server : WithinServer appLabel "dsName") (namespaceName : String) :
    Kind DaemonSet AddArgs Nat Unit where
  name := DaemonSet.name
  set := DaemonSet.set
  selects := fun dsName ds => server.selects (labelSelector [dsName]) ds.labels
  owner := Decimal.numbered
  batch := 1
  listFailed := fun message => "failed to list daemonsets: " ++ message
  noneFound := "no daemonsets found in namespace: " ++ namespaceName
  createFailed := fun _ message => message
  deleteFailed := fun name message => "failed to delete daemonset " ++ name ++ ": " ++ message
  taken := fun name => "daemonsets.apps " ++ Format.quote name ++ " already exists"
  target := AddArgs.dsName
  groups := fun args i => if i < args.count then some ([i.toNat], addInt64 i 1) else none
  itemName := fun args i => daemonsetName args.dsName i
  build := fun args i _ => .ok (newDaemonset args.dsName i)
  exact := selects_labelSelector server
  owned := fun args i => Decimal.numbered_eq args.dsName i
  made := by
    intro args i _ ds built
    cases built
    exact ⟨rfl, set_newDaemonset args.dsName i⟩

/-- The commands at work in a namespace. -/
def commands (server : WithinServer appLabel "dsName") (namespaceName : String)
    (before : StringMap DaemonSet) :
    TransitionSystem (State DaemonSet AddArgs Nat) (ObjectSets.Label AddArgs Nat Unit) :=
  ObjectSets.system (kind server namespaceName) before

/-! The listing has the number of daemon sets by what stands in front of the number of
their names; `names` are its arguments. -/

def admits (names : List LabelValue) (dsName : String) : Bool :=
  names.isEmpty || names.any fun name => name.text == dsName

/-- What a name is counted under. -/
def rowOf (name : String) : String := (Decimal.numbered name).getD name

def countName (dsNames : StringMap Nat) (name : String) : StringMap Nat :=
  dsNames.insert (rowOf name) ((dsNames.lookup (rowOf name)).getD 0 + 1)

def selected (server : WithinServer appLabel "dsName") (order : RangeOrder) (names : List String)
    (stored : StringMap DaemonSet) : List String :=
  ((order.visit stored).filter fun entry =>
    server.selects (labelSelector names) entry.2.labels).map Sigma.fst

def list (server : WithinServer appLabel "dsName") (order : RangeOrder) (names : List String)
    (stored : StringMap DaemonSet) : StringMap Nat :=
  (selected server order names stored).foldl countName ∅

theorem lookup_countNames (names : List String) (dsNames : StringMap Nat) (row : String) :
    (names.foldl countName dsNames).lookup row =
      if (names.map rowOf).count row = 0 then dsNames.lookup row
      else some ((dsNames.lookup row).getD 0 + (names.map rowOf).count row) := by
  induction names generalizing dsNames with
  | nil => rfl
  | cons name rest ih =>
      rw [List.foldl_cons, ih, List.map_cons]
      by_cases own : row = rowOf name
      · subst own
        rw [countName, AList.lookup_insert, List.count_cons_self, if_neg (Nat.succ_ne_zero _)]
        split_ifs with none
        · rw [none]
        · simp only [Option.getD_some]
          congr 1
          omega
      · have other : rowOf name ≠ row := fun same => own same.symm
        rw [countName, AList.lookup_insert_ne own, List.count_cons_of_ne other]

/-- Daemon sets of the application carry the label of the set that their name is of. -/
def Named (stored : StringMap DaemonSet) : Prop :=
  ∀ {name ds}, stored.lookup name = some ds → ds.labels.lookup "app" = some appLabel →
    ∃ set, ds.set = some set ∧ Decimal.numbered name = some set

/-- How many daemon sets carry the labels of a set. -/
def members (stored : StringMap DaemonSet) (set : String) : Nat :=
  stored.entries.countP fun entry => entry.2.set = some set

section Listing

variable (server : WithinServer appLabel "dsName") {stored : StringMap DaemonSet}

theorem counted_iff (named : Named stored) {names : List LabelValue} {set : String}
    {entry : Sigma fun _ : String => DaemonSet} (member : entry ∈ stored.entries) :
    server.selects (labelSelector (names.map LabelValue.text)) entry.2.labels = true ∧
        rowOf entry.1 = set ↔
      entry.2.set = some set ∧ admits names set = true := by
  have found : stored.lookup entry.1 = some entry.2 := AList.mem_lookup_iff.mpr member
  rw [labelSelector, server.within]
  unfold rowOf admits
  by_cases app : entry.2.labels.lookup "app" = some appLabel
  · obtain ⟨own, labelled, numbered⟩ := named found app
    have label : entry.2.labels.lookup "dsName" = some own := by
      rw [DaemonSet.set, if_pos app] at labelled
      exact labelled
    have asked : (names.any fun name => LabelSelector.has entry.2.labels "dsName" name.text) =
        names.any fun name => name.text == own := by
      refine congrArg (List.any names) (funext fun name => ?_)
      rw [Bool.eq_iff_iff]
      simp only [LabelSelector.has, label, Option.some.injEq, decide_eq_true_eq, beq_iff_eq]
      exact eq_comm
    simp only [LabelSelector.has, app, decide_true, Bool.true_and, numbered, labelled,
      Option.getD_some, Option.some.injEq]
    rw [show (names.any fun value => decide (entry.2.labels.lookup "dsName" = some value.text)) = _
      from asked]
    constructor
    · rintro ⟨selected, rfl⟩
      exact ⟨rfl, selected⟩
    · rintro ⟨rfl, admitted⟩
      exact ⟨admitted, rfl⟩
  · simp [LabelSelector.has, app, DaemonSet.set]

theorem count_rows (named : Named stored) (order : RangeOrder) (names : List LabelValue)
    (set : String) :
    ((selected server order (names.map LabelValue.text) stored).map rowOf).count set =
      if admits names set then members stored set else 0 := by
  let asks := fun entry : Sigma fun _ : String => DaemonSet =>
    server.selects (labelSelector (names.map LabelValue.text)) entry.2.labels
  have visited : ((selected server order (names.map LabelValue.text) stored).map rowOf).count set =
      stored.entries.countP fun entry => asks entry && rowOf entry.1 == set := by
    rw [selected, List.count, List.map_map, List.countP_map, List.countP_filter,
      (order.perm stored).countP_eq]
    refine List.countP_congr fun entry _ => ?_
    simp [asks, and_comm]
  rw [visited, members]
  split_ifs with admitted
  · refine List.countP_congr fun entry member => ?_
    rw [Bool.and_eq_true, beq_iff_eq, counted_iff server named member, decide_eq_true_eq]
    exact and_iff_left admitted
  · refine List.countP_eq_zero.mpr fun entry member counted => admitted ?_
    rw [Bool.and_eq_true, beq_iff_eq, counted_iff server named member] at counted
    exact counted.2

/-- The row of a set. -/
theorem lookup_list (named : Named stored) (order : RangeOrder) (names : List LabelValue)
    (set : String) :
    (list server order (names.map LabelValue.text) stored).lookup set =
      if admits names set = true ∧ 0 < members stored set then some (members stored set)
      else none := by
  rw [list, lookup_countNames, count_rows server named]
  by_cases admitted : admits names set = true
  · by_cases empty : members stored set = 0
    · simp [admitted, empty]
    · simp [admitted, empty, Nat.pos_of_ne_zero empty]
  · simp [admitted]

end Listing

section Runs

variable {server : WithinServer appLabel "dsName"} {namespaceName : String}
variable {before : StringMap DaemonSet}
variable {trace : List (ObjectSets.Label AddArgs Nat Unit)} {state : State DaemonSet AddArgs Nat}

theorem traverses_covers {args : AddArgs} {next : Int} {passed : List Nat}
    (traverses : (kind server namespaceName).Traverses args next passed) :
    0 ≤ next ∧ ∀ i : Nat, (i : Int) < next → i ∈ passed := by
  have fits := args.fits
  induction traverses with
  | start => exact ⟨by omega, fun i below => by omega⟩
  | @group next after passed group traverses found ih =>
      obtain ⟨low, covered⟩ := ih
      change (if next < args.count then some ([next.toNat], addInt64 next 1) else none) =
        some (group, after) at found
      split_ifs at found with inside
      cases found
      have forward : addInt64 next 1 = next + 1 := addInt64_eq (by omega) (by omega)
      rw [forward]
      refine ⟨by omega, fun i below => ?_⟩
      by_cases earlier : (i : Int) < next
      · exact List.mem_append_left _ (covered i earlier)
      · exact List.mem_append_right _ (List.mem_singleton.mpr (by omega))

theorem ended_covers {args : AddArgs} {next : Int} {passed : List Nat}
    (traverses : (kind server namespaceName).Traverses args next passed)
    (ended : (kind server namespaceName).groups args next = none) {i : Nat} (within : i < args.count) :
    i ∈ passed := by
  change (if next < args.count then some ([next.toNat], addInt64 next 1) else none) = none at ended
  split_ifs at ended with past
  exact (traverses_covers traverses).2 i (by omega)

theorem Named.set_numbered {stored : StringMap DaemonSet} (named : Named stored) {name set : String}
    {ds : DaemonSet} (found : stored.lookup name = some ds) (labelled : ds.set = some set) :
    Decimal.numbered name = some set := by
  have app : ds.labels.lookup "app" = some appLabel := by
    unfold DaemonSet.set at labelled
    split_ifs at labelled with app
    exact app
  obtain ⟨own, same, numbered⟩ := named found app
  rw [← labelled, same, numbered]

theorem named_of_sound (named : Named before)
    (sound : ObjectSets.Sound (kind server namespaceName) before state) : Named state.stored := by
  intro name ds found app
  rcases sound.origin found with old | ⟨set, owner, labelled⟩
  · exact named old app
  · exact ⟨set, labelled, owner⟩

/-- An addition that returned without an error has all its daemon sets in the namespace
until a deletion of the set is begun. -/
theorem count_le_members (sound : ObjectSets.Sound (kind server namespaceName) before state) {id : Nat}
    {args : AddArgs} {passed : List Nat}
    (returned : state.processes id = some (.added args passed none))
    (unbegun : args.dsName ∉ state.begun) : args.count ≤ members state.stored args.dsName := by
  obtain ⟨adds, traversed⟩ := sound.fits returned
  obtain ⟨next, traverses, ended⟩ := traversed rfl
  have stored : (List.range args.count.toNat).map (daemonsetName args.dsName) ⊆
      (state.stored.entries.filter fun entry => entry.2.set = some args.dsName).map Sigma.fst := by
    intro name member
    obtain ⟨i, below, rfl⟩ := List.mem_map.mp member
    have passes := ended_covers traverses ended (i := i) (by have := List.mem_range.mp below; omega)
    rcases adds.created rfl i passes with none | logged
    · cases none
    · obtain ⟨set, owner, stays⟩ := sound.logged logged
      cases (Decimal.numbered_eq args.dsName i).symm.trans owner
      obtain ⟨ds, found, labelled⟩ := stays unbegun
      refine List.mem_map.mpr ⟨⟨_, ds⟩, List.mem_filter.mpr ⟨?_, ?_⟩, rfl⟩
      · exact AList.mem_lookup_iff.mp found
      · exact decide_eq_true labelled
  have distinct : ((List.range args.count.toNat).map (daemonsetName args.dsName)).Nodup := by
    refine List.Nodup.map ?_ List.nodup_range
    intro first second same
    exact (Decimal.dash_inj same).2
  have fewer := (List.subperm_of_subset distinct stored).length_le
  rw [List.length_map, List.length_range, List.length_map, ← List.countP_eq_length_filter] at fewer
  have positive := args.positive
  unfold members
  omega

/-- A deletion that returned without an error leaves no daemon set of its set but those
created since its listing. -/
theorem members_eq_zero (sound : ObjectSets.Sound (kind server namespaceName) before state)
    (named : Named before) {id mark : Nat} {set : String}
    (returned : state.processes id = some (.deleted set mark none))
    (quiet : ∀ name ∈ state.since mark, Decimal.numbered name ≠ some set) :
    members state.stored set = 0 := by
  refine List.countP_eq_zero.mpr fun entry member labelled => ?_
  have found : state.stored.lookup entry.1 = some entry.2 := AList.mem_lookup_iff.mpr member
  have labelled : entry.2.set = some set := of_decide_eq_true labelled
  rcases (sound.fits returned).covers rfl found labelled with none | none | since
  · cases none
  · cases none
  · exact quiet entry.1 since (Named.set_numbered (named_of_sound named sound) found labelled)

/-- Whatever commands run at the same time, a listing has a row for exactly the sets it was
asked for that have daemon sets, with their number. After an addition that returned without
an error the number is at least what was asked for, until a deletion of the set is begun;
after such a deletion there is no row until more are created. -/
theorem list_tracks_commands (named : Named before)
    (run : (commands server namespaceName before).Run trace state) (order : RangeOrder)
    (names : List LabelValue) :
    (∀ set, (list server order (names.map LabelValue.text) state.stored).lookup set =
      if admits names set = true ∧ 0 < members state.stored set then
        some (members state.stored set)
      else none) ∧
    (∀ {id args passed}, state.processes id = some (.added args passed none) →
      args.dsName ∉ state.begun → admits names args.dsName = true →
      ∃ count : Nat,
        (list server order (names.map LabelValue.text) state.stored).lookup args.dsName =
          some count ∧ args.count ≤ count) ∧
    ∀ {id mark set}, state.processes id = some (.deleted set mark none) →
      (∀ name ∈ state.since mark, Decimal.numbered name ≠ some set) →
      (list server order (names.map LabelValue.text) state.stored).lookup set = none := by
  have sound : ObjectSets.Sound (kind server namespaceName) before state :=
    ObjectSets.sound_of_run (fun found labelled => Named.set_numbered named found labelled) run
  have rows := lookup_list server (named_of_sound named sound) order names
  refine ⟨rows, ?_, ?_⟩
  · intro id args passed returned unbegun admitted
    have enough := count_le_members sound returned unbegun
    have positive := args.positive
    refine ⟨members state.stored args.dsName, ?_, enough⟩
    rw [rows, if_pos ⟨admitted, by omega⟩]
  · intro id mark set returned quiet
    rw [rows, if_neg]
    rw [members_eq_zero sound named returned quiet]
    exact fun counted => Nat.lt_irrefl 0 counted.2

end Runs

namespace Sample

def server : WithinServer appLabel "dsName" := .reading appLabel "dsName"

def ds : LabelValue := ⟨"ds", by decide⟩

def other : LabelValue := ⟨"other", by decide⟩

def args : AddArgs := ⟨"ds", by decide, 2, by decide, by decide⟩

/-- A daemon set of another set. -/
def before : StringMap DaemonSet :=
  (∅ : StringMap DaemonSet).insert "other-0" (newDaemonset "other" 0)

theorem before_named : Named before := by
  intro name ds found app
  by_cases own : name = "other-0"
  · subst own
    rw [before, AList.lookup_insert] at found
    cases found
    exact ⟨"other", set_newDaemonset "other" 0, Decimal.numbered_eq "other" 0⟩
  · rw [before, AList.lookup_insert_ne own] at found
    cases found

/-- A set is added; two deletions of it take turns. -/
def trace : List (ObjectSets.Label AddArgs Nat Unit) :=
  [.start 1 (.add args), .create 1 0 () .none, .join 1, .create 1 1 () .none, .join 1,
    .start 2 (.delete ds), .start 3 (.delete ds), .list 2 .stored none, .list 3 .stored none,
    .delete 2 "ds-1" .none, .delete 3 "ds-1" .none, .join 3, .delete 3 "ds-0" .none, .join 3,
    .join 2, .delete 2 "ds-0" .none, .join 2]

end Sample

theorem list_tracks_commands_turns :
    ∃ state, (commands Sample.server "default" Sample.before).Run Sample.trace state ∧
      state.processes 2 = some (.deleted "ds" 2 none) ∧
      state.processes 3 = some (.deleted "ds" 2 none) ∧
      (list Sample.server .stored ["ds", "other"] state.stored).lookup "ds" = none ∧
      (list Sample.server .stored ["ds", "other"] state.stored).lookup "other" = some 1 := by
  obtain ⟨state, executed, second, third, log, members⟩ :
      ∃ state ∈ (commands Sample.server "default" Sample.before).execute
        (ObjectSets.init AddArgs Nat Sample.before) Sample.trace,
        state.processes 2 = some (.deleted "ds" 2 none) ∧
        state.processes 3 = some (.deleted "ds" 2 none) ∧
        state.since 2 = [] ∧ members state.stored "other" = 1 := by decide +kernel
  have run := TransitionSystem.runWith_of_executeWith rfl executed
  obtain ⟨rows, -, gone⟩ := list_tracks_commands Sample.before_named run .stored
    [Sample.ds, Sample.other]
  refine ⟨state, run, second, third, gone second ?_, ?_⟩
  · intro name member
    rw [log] at member
    cases member
  · refine (rows "other").trans ?_
    rw [members]
    rfl

end Kperf.Contrib.Daemonsets
