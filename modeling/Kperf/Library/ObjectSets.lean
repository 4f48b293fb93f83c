import Kperf.Library.LabelSelector
import Kperf.Library.Transition

/-! Named sets of objects in a namespace. One command adds the objects of a set, in
groups of calls that run side by side; another lists a set by its label and deletes what
it found, in batches of such calls. The names of sets are label values. Any number of
commands run at once. A call can fail, its request can be carried out late or never, and
a command can be killed. -/

set_option autoImplicit false

namespace Kperf.ObjectSets

open LabelSelector (LabelValue)

/-- What a call meets. A call that fails may have sent its request. -/
inductive CallFault where
  | none
  | failed (sent : Bool) (message : String)
  deriving DecidableEq, Repr

/-- A kind of objects: the set that an object is labelled with, the objects that the
selector for a name selects, the set that a name belongs to, how the tool reports its
errors, and how the arguments of an addition become objects: the groups of its loop by
the loop variable, and the object of an item given what comes from outside. -/
structure Kind (Object Args Item Choice : Type) where
  name : Object → String
  set : Object → Option String
  selects : String → Object → Bool
  owner : String → Option String
  batch : Nat
  listFailed : String → String
  noneFound : String
  createFailed : String → String → String
  deleteFailed : String → String → String
  /-- what the API server says when a name is in use -/
  taken : String → String
  target : Args → String
  groups : Args → Int → Option (List Item × Int)
  itemName : Args → Item → String
  build : Args → Item → Choice → Except String Object
  exact : ∀ (value : LabelValue) (object : Object),
    selects value.text object = true ↔ set object = some value.text
  owned : ∀ args item, owner (itemName args item) = some (target args)
  made : ∀ {args item choice object}, build args item choice = .ok object →
    name object = itemName args item ∧ set object = some (target args)

inductive Command (Args : Type) where
  | add (args : Args)
  | delete (set : LabelValue)

/-- Where a command stands. The items passed are those of all groups begun so far. A
deletion remembers how long the log was when it listed its set. -/
inductive Process (Args Item : Type) where
  | adding (args : Args) (next : Int) (left passed : List Item)
      (err : Option String)
  | added (args : Args) (passed : List Item) (err : Option String)
  | listing (set : LabelValue)
  | deleting (set : String) (mark : Nat) (items left : List String) (err : Option String)
  | deleted (set : String) (mark : Nat) (err : Option String)
  | killed
  deriving DecidableEq

inductive Request (Object : Type) where
  | create (object : Object)
  | remove (set name : String)

/-- `pending` are requests whose sender no longer waits. The last three fields are
history: the creations with the command that asked for them, the sets that a deletion
has been begun for, and the commands that met a failure. -/
structure State (Object Args Item : Type) where
  stored : StringMap Object
  pending : List (Nat × Request Object)
  processes : Nat → Option (Process Args Item)
  log : List (Nat × String)
  begun : List String
  faulted : List Nat

inductive Label (Args Item Choice : Type) where
  | start (process : Nat) (command : Command Args)
  | create (process : Nat) (item : Item) (choice : Choice) (fault : CallFault)
  | list (process : Nat) (order : RangeOrder) (failure : Option String)
  | delete (process : Nat) (name : String) (fault : CallFault)
  | join (process : Nat)
  | kill (process : Nat)
  | land (position : Nat)

variable {Object Args Item Choice : Type}

def Label.process : Label Args Item Choice → Option Nat
  | .create process _ _ _ | .list process _ _ | .delete process _ _ | .join process
  | .kill process => some process
  | .start _ _ | .land _ => none

namespace State

variable (state : State Object Args Item) (id : Nat)

def setProcess (process : Process Args Item) : State Object Args Item :=
  { state with processes := Function.update state.processes id (some process) }

def fault : State Object Args Item := { state with faulted := id :: state.faulted }

/-- The request of a call that failed. -/
def leave (sent : Bool) (request : Request Object) : State Object Args Item :=
  { state with pending := if sent then state.pending ++ [(id, request)] else state.pending }

def insert (kind : Kind Object Args Item Choice) (object : Object) : State Object Args Item :=
  { state with
    stored := state.stored.insert (kind.name object) object
    log := state.log ++ [(id, kind.name object)] }

def remove (name : String) : State Object Args Item :=
  { state with stored := state.stored.erase name }

end State

variable (kind : Kind Object Args Item Choice)

/-- The loop of an addition at a value of its variable. -/
def enterGroup (args : Args) (next : Int) (passed : List Item) : Process Args Item :=
  match kind.groups args next with
  | some (group, after) => .adding args after group (passed ++ group) none
  | none => .added args passed none

/-- The loop of a deletion over the items it has left. -/
def enterBatch (set : String) (mark : Nat) (items : List String) : Process Args Item :=
  if items = [] then .deleted set mark none
  else .deleting set mark (items.drop kind.batch) (items.take kind.batch) none

def Command.begin : Command Args → Process Args Item
  | .add args => enterGroup kind args 0 []
  | .delete set => .listing set

/-- The names of the objects that the selector for a set selects. -/
def Kind.select (order : RangeOrder) (set : String) (stored : StringMap Object) : List String :=
  ((order.visit stored).filter fun entry => kind.selects set entry.2).map Sigma.fst

variable [DecidableEq Item]

/-- One call to create an object; `err` is the first error of the group. -/
def create (state : State Object Args Item) (id : Nat) (args : Args) (next : Int)
    (left passed : List Item) (err : Option String) (item : Item) (choice : Choice)
    (fault : CallFault) : State Object Args Item :=
  let resume (err : Option String) : Process Args Item :=
    .adding args next (left.erase item) passed err
  match kind.build args item choice with
  | .error message => (state.fault id).setProcess id (resume (err.or (some message)))
  | .ok object =>
      match fault with
      | .failed sent message =>
          ((state.leave id sent (.create object)).fault id).setProcess id
            (resume (err.or (some (kind.createFailed (kind.itemName args item) message))))
      | .none =>
          if kind.name object ∈ state.stored then
            state.setProcess id
              (resume (err.or (some (kind.createFailed (kind.itemName args item)
                (kind.taken (kind.itemName args item))))))
          else (state.insert id kind object).setProcess id (resume err)

/-- One call to delete an object; that it is gone already is no error. -/
def delete (state : State Object Args Item) (id : Nat) (set : String) (mark : Nat)
    (items left : List String) (err : Option String) (name : String) (fault : CallFault) :
    State Object Args Item :=
  match fault with
  | .failed sent message =>
      ((state.leave id sent (.remove set name)).fault id).setProcess id
        (.deleting set mark items (left.erase name)
          (err.or (some (kind.deleteFailed name message))))
  | .none => (state.remove name).setProcess id (.deleting set mark items (left.erase name) err)

def stepProcess (state : State Object Args Item) (id : Nat) :
    Process Args Item → Label Args Item Choice → Option (State Object Args Item)
  | .adding args next left passed err, .create _ item choice fault =>
      if item ∈ left then some (create kind state id args next left passed err item choice fault)
      else none
  | .adding args next [] passed err, .join _ =>
      some (state.setProcess id
        (if err.isSome then .added args passed err else enterGroup kind args next passed))
  | .listing set, .list _ _ (some message) =>
      some ((state.fault id).setProcess id
        (.deleted set.text state.log.length (some (kind.listFailed message))))
  | .listing set, .list _ order none =>
      let items := kind.select order set.text state.stored
      some (state.setProcess id
        (if items = [] then .deleted set.text state.log.length (some kind.noneFound)
        else enterBatch kind set.text state.log.length items))
  | .deleting set mark items left err, .delete _ name fault =>
      if name ∈ left then some (delete kind state id set mark items left err name fault) else none
  | .deleting set mark items [] err, .join _ =>
      some (state.setProcess id
        (if err.isSome then .deleted set mark err else enterBatch kind set mark items))
  | .adding _ _ _ _ _, .kill _ | .listing _, .kill _ | .deleting _ _ _ _ _, .kill _ =>
      some (state.setProcess id .killed)
  | _, _ => none

def land (state : State Object Args Item) (id : Nat) : Request Object → State Object Args Item
  | .create object =>
      if kind.name object ∈ state.stored then state else state.insert id kind object
  | .remove _ name => state.remove name

def step (state : State Object Args Item) (label : Label Args Item Choice) :
    Option (State Object Args Item) :=
  match label.process with
  | some id => (state.processes id).bind fun process => stepProcess kind state id process label
  | none =>
      match label with
      | .start id command =>
          if (state.processes id).isSome then none
          else
            some ({ state with
              begun := match command with
                | .delete set => set.text :: state.begun
                | .add _ => state.begun }.setProcess id (command.begin kind))
      | .land position =>
          state.pending[position]?.map fun request =>
            land kind { state with pending := state.pending.eraseIdx position } request.1 request.2
      | _ => none

def init (Args Item : Type) (before : StringMap Object) :
    State Object Args Item :=
  ⟨before, [], fun _ => none, [], [], []⟩

def system (before : StringMap Object) :
    TransitionSystem (State Object Args Item) (Label Args Item Choice) where
  initial := fun state => state = init Args Item before
  step := step kind

/-! The steps as relations, one constructor for each branch. -/

section Moves

variable (state : State Object Args Item) (id : Nat)

inductive Move : Process Args Item → State Object Args Item → Prop where
  | unbuilt {args : Args} {next : Int} {left passed : List Item}
      {err : Option String} {item : Item} {message : String} :
      Move (.adding args next left passed err)
        ((state.fault id).setProcess id
          (.adding args next (left.erase item) passed (err.or (some message))))
  | refused {args : Args} {next : Int} {left passed : List Item}
      {err : Option String} {item : Item} {choice : Choice} {object : Object} {sent : Bool}
      {message : String} :
      kind.build args item choice = .ok object →
      Move (.adding args next left passed err)
        (((state.leave id sent (.create object)).fault id).setProcess id
          (.adding args next (left.erase item) passed (err.or (some message))))
  | taken {args : Args} {next : Int} {left passed : List Item}
      {err : Option String} {item : Item} :
      kind.itemName args item ∈ state.stored →
      Move (.adding args next left passed err)
        (state.setProcess id (.adding args next (left.erase item) passed
          (err.or (some (kind.createFailed (kind.itemName args item) (kind.taken (kind.itemName args item)))))))
  | create {args : Args} {next : Int} {left passed : List Item}
      {err : Option String} {item : Item} {choice : Choice} {object : Object} :
      kind.build args item choice = .ok object → kind.itemName args item ∉ state.stored →
      Move (.adding args next left passed err)
        ((state.insert id kind object).setProcess id
          (.adding args next (left.erase item) passed err))
  | addFailed {args : Args} {next : Int} {passed : List Item} {err : String} :
      Move (.adding args next [] passed (some err))
        (state.setProcess id (.added args passed (some err)))
  | group {args : Args} {next : Int} {passed : List Item} :
      Move (.adding args next [] passed none)
        (state.setProcess id (enterGroup kind args next passed))
  | listFails {set : LabelValue} {message : String} :
      Move (.listing set)
        ((state.fault id).setProcess id (.deleted set.text state.log.length (some message)))
  | listEmpty {set : LabelValue} :
      Move (.listing set)
        (state.setProcess id (.deleted set.text state.log.length (some kind.noneFound)))
  | list {set : LabelValue} {order : RangeOrder} :
      Move (.listing set)
        (state.setProcess id
          (enterBatch kind set.text state.log.length (kind.select order set.text state.stored)))
  | deleteFails {set name message : String} {mark : Nat} {items left : List String}
      {err : Option String} {sent : Bool} :
      name ∈ left →
      Move (.deleting set mark items left err)
        (((state.leave id sent (.remove set name)).fault id).setProcess id
          (.deleting set mark items (left.erase name) (err.or (some message))))
  | delete {set name : String} {mark : Nat} {items left : List String} {err : Option String} :
      name ∈ left →
      Move (.deleting set mark items left err)
        ((state.remove name).setProcess id (.deleting set mark items (left.erase name) err))
  | deleteFailed {set err : String} {mark : Nat} {items : List String} :
      Move (.deleting set mark items [] (some err))
        (state.setProcess id (.deleted set mark (some err)))
  | batch {set : String} {mark : Nat} {items : List String} :
      Move (.deleting set mark items [] none)
        (state.setProcess id (enterBatch kind set mark items))
  | kill {process : Process Args Item} :
      Move process (state.setProcess id .killed)

inductive Transition : State Object Args Item → Prop where
  | add {id : Nat} {args : Args} :
      state.processes id = none →
      Transition (state.setProcess id (enterGroup kind args 0 []))
  | delete {id : Nat} {set : LabelValue} :
      state.processes id = none →
      Transition ({ state with begun := set.text :: state.begun }.setProcess id (.listing set))
  | process {id : Nat} {process : Process Args Item} {next : State Object Args Item} :
      state.processes id = some process → Move kind state id process next → Transition next
  | land {position id : Nat} {request : Request Object} :
      state.pending[position]? = some (id, request) →
      Transition (land kind { state with pending := state.pending.eraseIdx position } id request)

end Moves

section Inversion

variable {kind} {state next : State Object Args Item} {label : Label Args Item Choice} {id : Nat}

theorem create_move {args : Args} {after : Int} {left passed : List Item}
    {err : Option String} {item : Item} {choice : Choice} {fault : CallFault} :
    Move kind state id (.adding args after left passed err)
      (create kind state id args after left passed err item choice fault) := by
  unfold create
  dsimp only
  split
  · exact .unbuilt
  · rename_i object built
    split
    · exact .refused built
    · obtain ⟨named, -⟩ := kind.made built
      rw [named]
      split_ifs with present
      · exact .taken present
      · exact .create built present

theorem delete_move {set name : String} {mark : Nat} {items left : List String}
    {err : Option String} {fault : CallFault} (waiting : name ∈ left) :
    Move kind state id (.deleting set mark items left err)
      (delete kind state id set mark items left err name fault) := by
  unfold delete
  split
  · exact .deleteFails waiting
  · exact .delete waiting

theorem stepProcess_move {process : Process Args Item}
    (stepped : stepProcess kind state id process label = some next) : Move kind state id process next := by
  unfold stepProcess at stepped
  split at stepped
  · split_ifs at stepped
    cases stepped
    exact create_move
  · rename_i args after passed err _
    cases stepped
    cases err with
    | none => exact .group
    | some err => exact .addFailed
  · cases stepped
    exact .listFails
  · cases stepped
    split_ifs
    · exact .listEmpty
    · exact .list
  · split_ifs at stepped with waiting
    cases stepped
    exact delete_move waiting
  · rename_i set mark items err _
    cases stepped
    cases err with
    | none => exact .batch
    | some err => exact .deleteFailed
  · cases stepped
    exact .kill
  · cases stepped
    exact .kill
  · cases stepped
    exact .kill
  · cases stepped

theorem step_transition (stepped : step kind state label = some next) : Transition kind state next := by
  unfold step at stepped
  split at stepped
  · obtain ⟨process, found, moved⟩ := Option.bind_eq_some_iff.mp stepped
    exact .process found (stepProcess_move moved)
  · split at stepped
    · rename_i command _
      split_ifs at stepped with taken
      have free := Option.not_isSome_iff_eq_none.mp taken
      cases stepped
      cases command with
      | add args => exact .add free
      | delete set => exact .delete free
    · obtain ⟨⟨owner, request⟩, found, rfl⟩ := Option.map_eq_some_iff.mp stepped
      exact .land found
    · cases stepped

end Inversion

end Kperf.ObjectSets
