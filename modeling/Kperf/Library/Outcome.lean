import Mathlib.Algebra.Field.Rat
import Mathlib.Data.Rat.Defs

/-! Results of Go functions, the verbs of `fmt` that their messages use, and
`int64` addition. -/

set_option autoImplicit false

namespace Kperf

/-- How a call ends when it does not return a value: with an error for its
caller, or with a panic that takes the process down. -/
inductive Fault where
  | error (message : String)
  | panic (message : String)
  deriving DecidableEq, Repr

abbrev Outcome := Except Fault

namespace Outcome

def fail {α : Type} (message : String) : Outcome α := .error (.error message)

def panics {α : Type} (message : String) : Outcome α := .error (.panic message)

/-- `fmt.Errorf` around an error; a panic passes through unchanged. -/
def wrap {α : Type} (context : String) : Outcome α → Outcome α
  | .error (.error message) => .error (.error (context ++ message))
  | other => other

@[simp] theorem wrap_eq_ok {α : Type} {context : String} {outcome : Outcome α} {value : α} :
    wrap context outcome = .ok value ↔ outcome = .ok value := by
  cases outcome with
  | ok returned => rfl
  | error fault => cases fault <;> simp [wrap]

/-- A check at the start of a function. -/
theorem guard_eq_ok {α : Type} {refused : Prop} [Decidable refused] {message : String}
    {next : Outcome α} {value : α} :
    (if refused then fail message else next) = .ok value ↔ ¬refused ∧ next = .ok value := by
  split_ifs with wrong
  · simp [fail, wrong]
  · simp [wrong]

theorem bind_eq_ok {α β : Type} {outcome : Outcome α} {next : α → Outcome β} {value : β} :
    (outcome >>= next) = .ok value ↔ ∃ returned, outcome = .ok returned ∧ next returned = .ok value := by
  cases outcome with
  | error fault =>
      constructor
      · nofun
      · nofun
  | ok returned =>
      constructor
      · intro continued
        exact ⟨returned, rfl, continued⟩
      · intro found
        obtain ⟨_, ⟨⟩, continued⟩ := found
        exact continued

theorem map_eq_ok {α β : Type} {outcome : Outcome α} {change : α → β} {value : β} :
    outcome.map change = .ok value ↔ ∃ returned, outcome = .ok returned ∧ change returned = value := by
  cases outcome with
  | error fault => simp [Except.map]
  | ok returned => simp [Except.map]

/-- The call takes the process down. -/
def Panics {α : Type} (outcome : Outcome α) : Prop := ∃ message, outcome = panics message

theorem not_panics_ok {α : Type} {value : α} : ¬Panics (.ok value) := nofun

theorem not_panics_fail {α : Type} {message : String} : ¬Panics (fail message : Outcome α) :=
  nofun

theorem wrap_panics {α : Type} {context : String} {outcome : Outcome α} :
    Panics (wrap context outcome) ↔ Panics outcome := by
  cases outcome with
  | ok returned => rfl
  | error fault => cases fault <;> simp [Panics, wrap, panics]

theorem guard_panics {α : Type} {refused : Prop} [Decidable refused] {message : String}
    {next : Outcome α} :
    Panics (if refused then fail message else next) ↔ ¬refused ∧ Panics next := by
  split_ifs with wrong
  · simp [wrong, not_panics_fail]
  · simp [wrong]

theorem bind_panics {α β : Type} {outcome : Outcome α} {next : α → Outcome β} :
    Panics (outcome >>= next) ↔
      Panics outcome ∨ ∃ returned, outcome = .ok returned ∧ Panics (next returned) := by
  cases outcome with
  | ok returned =>
      constructor
      · intro later
        exact .inr ⟨returned, rfl, later⟩
      · rintro (first | ⟨_, ⟨⟩, later⟩)
        · exact absurd first not_panics_ok
        · exact later
  | error fault =>
      constructor
      · rintro ⟨message, ⟨⟩⟩
        exact .inl ⟨message, rfl⟩
      · rintro (⟨message, ⟨⟩⟩ | ⟨_, ⟨⟩, -⟩)
        exact ⟨message, rfl⟩

theorem mapM_ok {α β : Type} {draw : α → Outcome β} {items : List α} {drawn : List β}
    (ran : items.mapM draw = .ok drawn) :
    drawn.length = items.length ∧ ∀ value ∈ drawn, ∃ item, draw item = .ok value := by
  induction items generalizing drawn with
  | nil =>
      cases ran
      exact ⟨rfl, by nofun⟩
  | cons item rest ih =>
      rw [List.mapM_cons] at ran
      obtain ⟨value, first, continued⟩ := bind_eq_ok.mp ran
      obtain ⟨values, later, returned⟩ := bind_eq_ok.mp continued
      cases returned
      obtain ⟨lengths, sources⟩ := ih later
      refine ⟨by simp [lengths], List.forall_mem_cons.mpr ⟨⟨item, first⟩, sources⟩⟩

end Outcome

def Fault.message : Fault → String
  | .error message | .panic message => message

def addInt64 (left right : Int) : Int := (left + right).bmod (2 ^ 64)

theorem addInt64_eq {left right : Int} (low : -2 ^ 63 ≤ left + right)
    (high : left + right < 2 ^ 63) :
    addInt64 left right = left + right :=
  Int.bmod_eq_of_le (by omega) (by omega)

theorem addInt64_overflow {left right : Int} (low : 2 ^ 63 ≤ left + right)
    (high : left + right < 2 ^ 64) : addInt64 left right = left + right - 2 ^ 64 := by
  rw [addInt64, ← Int.sub_bmod_right]
  exact Int.bmod_eq_of_le (by omega) (by omega)

def mulInt64 (left right : Int) : Int := (left * right).bmod (2 ^ 64)

/-- A sum that wraps at every addition is the sum wrapped once. -/
theorem foldl_addInt64 (numbers : List Int) (start : Int) :
    numbers.foldl addInt64 (start.bmod (2 ^ 64)) = (start + numbers.sum).bmod (2 ^ 64) := by
  induction numbers generalizing start with
  | nil => simp
  | cons number rest ih =>
      rw [List.foldl_cons, addInt64, Int.bmod_add_bmod, ih, List.sum_cons, Int.add_assoc]

namespace Format

def fraction : Nat → ℚ → List Char
  | 0, _ => []
  | fuel + 1, rest =>
      if rest = 0 then []
      else
        let digit := (rest * 10).floor.toNat
        Nat.digitChar digit :: fraction fuel (rest * 10 - digit)

/-- A value that is not negative, without an exponent. -/
def decimal (size : ℚ) : String :=
  let whole := size.floor.toNat
  let digits := fraction 17 (size - whole)
  toString whole ++ (if digits.isEmpty then "" else "." ++ String.ofList digits)

/-- The places by which the point moves right to come behind the first digit. -/
def leadingZeros : Nat → ℚ → Nat
  | 0, _ => 0
  | fuel + 1, size => if 1 ≤ size then 0 else leadingZeros fuel (size * 10) + 1

def exponent (number : Nat) : String := (if number < 10 then "0" else "") ++ toString number

/-- The verb `%v` of a float. -/
def float (value : ℚ) : String :=
  let size := if value < 0 then -value else value
  (if value < 0 then "-" else "") ++
    if 1000000 ≤ size then
      let places := (toString size.floor.toNat).length - 1
      decimal (size / 10 ^ places) ++ "e+" ++ exponent places
    else if 0 < size ∧ size < 1 / 10000 then
      let places := leadingZeros 324 size
      decimal (size * 10 ^ places) ++ "e-" ++ exponent places
    else decimal size

example : float (-1000000) = "-1e+06" ∧ float (5 / 4) = "1.25" ∧ float (1 / 20000) = "5e-05" := by
  decide +kernel

/-- The verb `%.2f`, which rounds a tie to the even digit. -/
def fixed2 (value : ℚ) : String :=
  let size := (if value < 0 then -value else value) * 100
  let low := size.floor.toNat
  let rest := size - low
  let hundredths := if 1 / 2 < rest ∨ (rest = 1 / 2 ∧ low % 2 = 1) then low + 1 else low
  (if value < 0 then "-" else "") ++ toString (hundredths / 100) ++ "." ++
    String.ofList [Nat.digitChar (hundredths / 10 % 10), Nat.digitChar (hundredths % 10)]

example : fixed2 (-1 / 8) = "-0.12" ∧ fixed2 (3 / 2) = "1.50" := by decide +kernel

def quoteChar (char : Char) : List Char :=
  if char = '"' then ['\\', '"']
  else if char = '\\' then ['\\', '\\']
  else if char = '\n' then ['\\', 'n']
  else if char = '\t' then ['\\', 't']
  else if char = '\r' then ['\\', 'r']
  else [char]

def quote (text : String) : String :=
  "\"" ++ String.ofList (text.toList.flatMap quoteChar) ++ "\""

end Format

end Kperf
