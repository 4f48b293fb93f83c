import Mathlib.Init

/-! Go errors as trees: an error has a value of its own and unwraps to zero,
one or several errors. `errors.As` and `errors.Is` search the tree in
pre-order. -/

set_option autoImplicit false

namespace Kperf

universe u v

inductive ErrorTree (Value : Type u) where
  | node (value : Value) (wrapped : List (ErrorTree Value))

namespace ErrorTree

variable {Value : Type u} {Target : Type v}

def value : ErrorTree Value → Value
  | .node value _ => value

mutual

/-- `errors.As`: the first error of the tree that is assignable to the target. -/
def as (assign : Value → Option Target) : ErrorTree Value → Option Target
  | .node value wrapped => (assign value).orElse fun _ => asAny assign wrapped

def asAny (assign : Value → Option Target) : List (ErrorTree Value) → Option Target
  | [] => none
  | error :: others => (as assign error).orElse fun _ => asAny assign others

end

def is (same : Value → Bool) (error : ErrorTree Value) : Bool :=
  (error.as fun value => if same value then some () else none).isSome

def leaf (value : Value) : ErrorTree Value := .node value []

def wrap (value : Value) (cause : ErrorTree Value) : ErrorTree Value := .node value [cause]

end ErrorTree

end Kperf
