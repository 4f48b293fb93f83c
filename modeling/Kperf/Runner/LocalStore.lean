import Kperf.Library.Transition
import Mathlib.Logic.Function.Basic

/-! The local store at the granularity of its calls into the operating system.
A goroutine that uses a writer, a reader or `Delete` is a program counter; the
directories `ingest` and `data` map names to files, and a file keeps its bytes
under every name it is moved to. Each label performs one call, so the steps of
different goroutines interleave between any two calls. -/

set_option autoImplicit false

namespace Kperf.Runner.LocalStore

abbrev FileId := Nat
abbrev WriterId := Nat
abbrev AccessId := Nat

/-- What `Commit` returns; only `alreadyExists` wraps `ErrAlreadyExists`. -/
inductive CommitResult where
  | ok
  | syncFailed
  | alreadyExists
  | statFailed
  | renameFailed
  deriving DecidableEq, Repr

inductive DeleteResult where
  | ok
  | statFailed
  | removeFailed
  deriving DecidableEq, Repr

/-- Where the goroutine of a writer stands. `commitClose` and `commitRemove`
are the deferred `w.Close()`, run with the result already fixed and the store
lock still held; `closeFile` and `closeRemove` are a `Close` of the caller. -/
inductive Stage where
  | idle
  | commitLock (ref : String)
  | commitSync (ref : String)
  | commitStat (ref : String)
  | commitRename (ref : String)
  | commitClose (ref : String) (result : CommitResult)
  | commitRemove (ref : String) (result : CommitResult)
  | commitUnlock (ref : String) (result : CommitResult)
  | closeFile
  | closeRemove
  | dead
  deriving DecidableEq, Repr

/-- A writer with its path and its open file. The last two fields are history:
the bytes `Write` has accepted, and the ref its `Commit` renamed a file to. -/
structure Writer where
  name : String
  file : FileId
  isOpen : Bool
  stage : Stage
  accepted : List UInt8
  published : Option String
  deriving DecidableEq, Repr

inductive Access where
  | idle
  | deleteLock (ref : String)
  | deleteStat (ref : String)
  | deleteRemove (ref : String)
  | deleteUnlock (ref : String) (result : DeleteResult)
  | readLock (ref : String)
  | readStat (ref : String)
  | readOpen (ref : String)
  | readUnlock (ref : String) (file : Option FileId)
  | reading (file : FileId)
  deriving DecidableEq, Repr

inductive Holder where
  | writer (writer : WriterId)
  | access (access : AccessId)
  deriving DecidableEq, Repr

inductive Event where
  | commit (writer : WriterId) (ref : String) (result : CommitResult)
  | close (writer : WriterId) (succeeded : Bool)
  | delete (ref : String) (result : DeleteResult)
  deriving DecidableEq, Repr

structure State where
  ingest : String → Option FileId
  data : String → Option FileId
  content : FileId → List UInt8
  nextFile : FileId
  lock : Option Holder
  entered : String → Option (List UInt8)
  writers : WriterId → Option Writer
  accesses : AccessId → Access
  names : List String
  history : List Event

def newStore : State where
  ingest := fun _ => none
  data := fun _ => none
  content := fun _ => []
  nextFile := 0
  lock := none
  entered := fun _ => none
  writers := fun _ => none
  accesses := fun _ => .idle
  names := []
  history := []

/-- What a reader finds under each ref of `data`. -/
def State.view (state : State) (ref : String) : Option (List UInt8) :=
  (state.data ref).map state.content

def State.setWriter (state : State) (id : WriterId) (writer : Writer) : State :=
  { state with writers := Function.update state.writers id (some writer) }

def State.setAccess (state : State) (id : AccessId) (access : Access) : State :=
  { state with accesses := Function.update state.accesses id access }

def State.record (state : State) (event : Event) : State :=
  { state with history := state.history ++ [event] }

def State.acquire (state : State) (holder : Holder) : Option State :=
  match state.lock with
  | none => some { state with lock := some holder, entered := state.view }
  | some _ => none

inductive Label where
  | openWriter (writer : WriterId) (name : String)
  | write (writer : WriterId) (bytes : List UInt8) (count : Nat)
  | commit (writer : WriterId) (ref : String)
  | lock (writer : WriterId)
  | sync (writer : WriterId) (succeeds : Bool)
  | stat (writer : WriterId) (succeeds : Bool)
  | rename (writer : WriterId) (succeeds : Bool)
  | closeFile (writer : WriterId)
  | remove (writer : WriterId) (succeeds : Bool)
  | unlock (writer : WriterId)
  | close (writer : WriterId)
  | delete (access : AccessId) (ref : String)
  | openReader (access : AccessId) (ref : String)
  | lockAccess (access : AccessId)
  | statAccess (access : AccessId) (succeeds : Bool)
  | removeAccess (access : AccessId) (succeeds : Bool)
  | openAccess (access : AccessId) (succeeds : Bool)
  | unlockAccess (access : AccessId)
  | closeReader (access : AccessId)
  | crash
  deriving DecidableEq, Repr

def openWriter (state : State) (id : WriterId) (name : String) : Option State :=
  match state.writers id, state.ingest name with
  | none, none =>
      some { state with
        ingest := Function.update state.ingest name (some state.nextFile)
        content := Function.update state.content state.nextFile []
        nextFile := state.nextFile + 1
        writers := Function.update state.writers id
          (some ⟨name, state.nextFile, true, .idle, [], none⟩)
        names := name :: state.names }
  | _, _ => none

/-- `Write` on the open file. After `Close` the file accepts nothing. -/
def write (state : State) (id : WriterId) (writer : Writer) (bytes : List UInt8)
    (count : Nat) : Option State :=
  match writer.stage with
  | .idle =>
      if writer.isOpen then
        some ({ state with
          content := Function.update state.content writer.file
            (state.content writer.file ++ bytes.take count) }.setWriter id
          { writer with accepted := writer.accepted ++ bytes.take count })
      else some state
  | _ => none

/-- The calls of `Commit` before its deferred `Close`. `Sync` fails on a file
that is closed, `Stat` never reports an existing entry as absent, and `Rename`
moves whatever file stands under the writer's path. -/
def sync (state : State) (id : WriterId) (writer : Writer) (succeeds : Bool) : Option State :=
  match writer.stage with
  | .commitSync ref =>
      if writer.isOpen && succeeds then
        some (state.setWriter id { writer with stage := .commitStat ref })
      else some (state.setWriter id { writer with stage := .commitClose ref .syncFailed })
  | _ => none

def stat (state : State) (id : WriterId) (writer : Writer) (succeeds : Bool) : Option State :=
  match writer.stage with
  | .commitStat ref =>
      if succeeds then
        match state.data ref with
        | some _ =>
            some (state.setWriter id { writer with stage := .commitClose ref .alreadyExists })
        | none => some (state.setWriter id { writer with stage := .commitRename ref })
      else some (state.setWriter id { writer with stage := .commitClose ref .statFailed })
  | _ => none

def rename (state : State) (id : WriterId) (writer : Writer) (succeeds : Bool) : Option State :=
  match writer.stage with
  | .commitRename ref =>
      match state.ingest writer.name, succeeds with
      | some file, true =>
          some ({ state with
            ingest := Function.update state.ingest writer.name none
            data := Function.update state.data ref (some file) }.setWriter id
            { writer with stage := .commitClose ref .ok, published := some ref })
      | _, _ => some (state.setWriter id { writer with stage := .commitClose ref .renameFailed })
  | _ => none

/-- `w.f.Close()`: whatever it returns, the file is unusable afterwards. -/
def closeFile (state : State) (id : WriterId) (writer : Writer) : Option State :=
  match writer.stage with
  | .commitClose ref result =>
      some (state.setWriter id { writer with isOpen := false, stage := .commitRemove ref result })
  | .closeFile =>
      some (state.setWriter id { writer with isOpen := false, stage := .closeRemove })
  | _ => none

/-- `os.Remove(w.name)`: it removes whatever stands under the path. A missing
file is not an error, and a failed call keeps the file. -/
def remove (state : State) (id : WriterId) (writer : Writer) (succeeds : Bool) : Option State :=
  let kept := if succeeds then Function.update state.ingest writer.name none else state.ingest
  match writer.stage with
  | .commitRemove ref result =>
      some ({ state with ingest := kept }.setWriter id
        { writer with stage := .commitUnlock ref result })
  | .closeRemove =>
      some (({ state with ingest := kept }.setWriter id { writer with stage := .idle }).record
        (.close id (succeeds || (state.ingest writer.name).isNone)))
  | _ => none

def unlock (state : State) (id : WriterId) (writer : Writer) : Option State :=
  match writer.stage with
  | .commitUnlock ref result =>
      some (({ state with lock := none }.setWriter id { writer with stage := .idle }).record
        (.commit id ref result))
  | _ => none

def stepWriter (state : State) (id : WriterId) (writer : Writer) : Label → Option State
  | .write _ bytes count => write state id writer bytes count
  | .commit _ ref =>
      match writer.stage with
      | .idle => some (state.setWriter id { writer with stage := .commitLock ref })
      | _ => none
  | .lock _ =>
      match writer.stage with
      | .commitLock ref => (state.acquire (.writer id)).map fun locked =>
          locked.setWriter id { writer with stage := .commitSync ref }
      | _ => none
  | .sync _ succeeds => sync state id writer succeeds
  | .stat _ succeeds => stat state id writer succeeds
  | .rename _ succeeds => rename state id writer succeeds
  | .closeFile _ => closeFile state id writer
  | .remove _ succeeds => remove state id writer succeeds
  | .unlock _ => unlock state id writer
  | .close _ =>
      match writer.stage with
      | .idle => some (state.setWriter id { writer with stage := .closeFile })
      | _ => none
  | _ => none

def stepAccess (state : State) (id : AccessId) : Access → Label → Option State
  | .idle, .delete _ ref => some (state.setAccess id (.deleteLock ref))
  | .idle, .openReader _ ref => some (state.setAccess id (.readLock ref))
  | .deleteLock ref, .lockAccess _ =>
      (state.acquire (.access id)).map fun locked => locked.setAccess id (.deleteStat ref)
  | .readLock ref, .lockAccess _ =>
      (state.acquire (.access id)).map fun locked => locked.setAccess id (.readStat ref)
  | .deleteStat ref, .statAccess _ succeeds =>
      if succeeds then
        match state.data ref with
        | some _ => some (state.setAccess id (.deleteRemove ref))
        | none => some (state.setAccess id (.deleteUnlock ref .ok))
      else some (state.setAccess id (.deleteUnlock ref .statFailed))
  | .readStat ref, .statAccess _ succeeds =>
      match state.data ref, succeeds with
      | some _, true => some (state.setAccess id (.readOpen ref))
      | _, _ => some (state.setAccess id (.readUnlock ref none))
  | .deleteRemove ref, .removeAccess _ succeeds =>
      if succeeds then
        some ({ state with data := Function.update state.data ref none }.setAccess id
          (.deleteUnlock ref .ok))
      else some (state.setAccess id (.deleteUnlock ref .removeFailed))
  | .readOpen ref, .openAccess _ succeeds =>
      some (state.setAccess id (.readUnlock ref (if succeeds then state.data ref else none)))
  | .deleteUnlock ref result, .unlockAccess _ =>
      some (({ state with lock := none }.setAccess id .idle).record (.delete ref result))
  | .readUnlock _ (some file), .unlockAccess _ =>
      some ({ state with lock := none }.setAccess id (.reading file))
  | .readUnlock _ none, .unlockAccess _ =>
      some ({ state with lock := none }.setAccess id .idle)
  | .reading _, .closeReader _ => some (state.setAccess id .idle)
  | _, _ => none

/-- The process dies: every goroutine and every open file is gone. -/
def crash (state : State) : State :=
  { state with
    lock := none
    writers := fun id => (state.writers id).map fun writer =>
      { writer with isOpen := false, stage := .dead }
    accesses := fun _ => .idle }

def Label.actor : Label → Option Holder
  | .write id _ _ | .commit id _ | .lock id | .sync id _ | .stat id _ | .rename id _
  | .closeFile id | .remove id _ | .unlock id | .close id => some (.writer id)
  | .delete id _ | .openReader id _ | .lockAccess id | .statAccess id _ | .removeAccess id _
  | .openAccess id _ | .unlockAccess id | .closeReader id => some (.access id)
  | .openWriter _ _ | .crash => none

def step (state : State) (label : Label) : Option State :=
  match label.actor with
  | some (.writer id) => (state.writers id).bind fun writer => stepWriter state id writer label
  | some (.access id) => stepAccess state id (state.accesses id) label
  | none =>
      match label with
      | .openWriter id name => openWriter state id name
      | .crash => some (crash state)
      | _ => none

def system : TransitionSystem State Label where
  initial := fun state => state = newStore
  step := step

def Label.openedName : Label → Option String
  | .openWriter _ name => some name
  | _ => none

/-- `os.CreateTemp` returns a name it has never returned before. -/
def FreshName (state : State) (label : Label) : Prop :=
  ∀ name ∈ label.openedName, name ∉ state.names

instance (state : State) (label : Label) : Decidable (FreshName state label) :=
  inferInstanceAs (Decidable (∀ name ∈ label.openedName, name ∉ state.names))

end Kperf.Runner.LocalStore
