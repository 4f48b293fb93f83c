import Mathlib.Data.List.Basic

/-! Goroutines that share a buffered channel and an `errgroup` with a context.
A blocked operation is `none`: it happens when what it waits for has happened. -/

set_option autoImplicit false

namespace Kperf

/-- A function given to `Group.Go`: it runs, has returned, and is done once the
group has seen what it returned. -/
inductive Goroutine (Point : Type) where
  | running (point : Point)
  | returned (err : Option String)
  | exited
  deriving DecidableEq, Repr

structure Channel (Value : Type) where
  buffer : List Value
  closed : Bool
  deriving DecidableEq, Repr

namespace Channel

variable {Value : Type} {channel next : Channel Value} {capacity : Nat} {value : Value}

def empty : Channel Value := ⟨[], false⟩

/-- A send waits for room. Sending on a closed channel is not covered: it panics. -/
def send (channel : Channel Value) (capacity : Nat) (value : Value) : Option (Channel Value) :=
  if channel.closed = false ∧ channel.buffer.length < capacity then
    some { channel with buffer := channel.buffer ++ [value] }
  else none

/-- What is buffered can be received after the close; then there is no value. -/
def receive (channel : Channel Value) : Option (Option Value × Channel Value) :=
  match channel.buffer with
  | value :: rest => some (some value, { channel with buffer := rest })
  | [] => if channel.closed then some (none, channel) else none

def close (channel : Channel Value) : Channel Value := { channel with closed := true }

theorem send_eq_some : channel.send capacity value = some next ↔
    channel.closed = false ∧ channel.buffer.length < capacity ∧
      next = ⟨channel.buffer ++ [value], false⟩ := by
  obtain ⟨buffer, closed⟩ := channel
  unfold send
  split_ifs with room
  · obtain ⟨rfl, short⟩ := room
    simp [short, eq_comm]
  · constructor
    · nofun
    · intro ⟨opened, short, _⟩
      exact absurd ⟨opened, short⟩ room

theorem receive_eq_value : channel.receive = some (some value, next) ↔
    ∃ rest, channel.buffer = value :: rest ∧ next = { channel with buffer := rest } := by
  obtain ⟨buffer, closed⟩ := channel
  cases buffer with
  | nil => cases closed <;> simp [receive]
  | cons first rest =>
      simp only [receive, Option.some.injEq, Prod.mk.injEq, List.cons.injEq]
      constructor
      · intro ⟨same, moved⟩
        exact ⟨rest, ⟨same, rfl⟩, moved.symm⟩
      · intro ⟨_, ⟨same, rfl⟩, moved⟩
        exact ⟨same, moved.symm⟩

theorem receive_eq_closed : channel.receive = some (none, next) ↔
    channel.buffer = [] ∧ channel.closed = true ∧ next = channel := by
  obtain ⟨buffer, closed⟩ := channel
  cases buffer with
  | nil => cases closed <;> simp [receive, eq_comm]
  | cons first rest => simp [receive]

end Channel

/-- A group made by `errgroup.WithContext`: the error of its context, once that
is done, and the first error a member returned. -/
structure ErrorGroup where
  ctxErr : Option String
  err : Option String
  deriving DecidableEq, Repr

namespace ErrorGroup

variable {group : ErrorGroup} {err : Option String}

def start : ErrorGroup := ⟨none, none⟩

/-- A context that is already done keeps its error. -/
def cancel (group : ErrorGroup) (reason : String) : ErrorGroup :=
  { group with ctxErr := group.ctxErr.or (some reason) }

/-- What the group does when a member has returned: the first error is kept,
and cancels the context. -/
def settle (group : ErrorGroup) : Option String → ErrorGroup
  | none => group
  | some err =>
      match group.err with
      | some _ => group
      | none => { group.cancel "context canceled" with err := some err }

/-- A group that holds an error has cancelled its context. -/
def Cancelled (group : ErrorGroup) : Prop := group.err.isSome → group.ctxErr.isSome

theorem cancelled_start : start.Cancelled := nofun

theorem cancelled_cancel (group : ErrorGroup) (reason : String) :
    (group.cancel reason).Cancelled := by
  intro _
  simp [cancel]

theorem Cancelled.settle (cancelled : group.Cancelled) (err : Option String) :
    (group.settle err).Cancelled := by
  unfold ErrorGroup.settle
  split
  · exact cancelled
  · split
    · exact cancelled
    · intro _
      simp [ErrorGroup.cancel]

theorem settle_err_eq_none :
    (group.settle err).err = none ↔ group.err = none ∧ err = none := by
  unfold settle
  split
  · simp
  · split <;> simp_all

/-- A context that is done stays done. -/
theorem settle_ctxErr (done : group.ctxErr.isSome) : (group.settle err).ctxErr.isSome := by
  unfold settle
  split
  · exact done
  · split
    · exact done
    · simp [cancel]

end ErrorGroup

/-- Ended, and with no error that the group knows of. -/
def Goroutine.Clean {Point : Type} (group : ErrorGroup) : Goroutine Point → Prop
  | .running _ => False
  | .returned err => err = none
  | .exited => group.err = none

theorem Goroutine.not_clean_running {Point : Type} {group : ErrorGroup} {point : Point} :
    ¬(Goroutine.running point).Clean group := id

theorem Goroutine.not_clean_error {Point : Type} {group : ErrorGroup} {err : String} :
    ¬(Goroutine.returned (some err) : Goroutine Point).Clean group := Option.some_ne_none err

theorem Goroutine.Clean.of_settle {Point : Type} {group : ErrorGroup} {err : Option String}
    {goroutine : Goroutine Point} (clean : goroutine.Clean (group.settle err)) :
    goroutine.Clean group := by
  cases goroutine with
  | running point => exact clean
  | returned err => exact clean
  | exited => exact (ErrorGroup.settle_err_eq_none.mp clean).1

/-- The group has seen what the goroutine returned. -/
theorem Goroutine.Clean.of_exited {Point : Type} {group : ErrorGroup} {err : Option String}
    (clean : (Goroutine.exited : Goroutine Point).Clean (group.settle err)) :
    (Goroutine.returned err : Goroutine Point).Clean group :=
  (ErrorGroup.settle_err_eq_none.mp clean).2

end Kperf
