import Kperf.Library.Transition
import Kperf.Request.Builder
import Mathlib.Logic.Function.Basic

/-! The names of one postDel builder on their own: which are cached, which are
held by requests in flight, and what has happened to them. Any number of
holders share the builder; a holder has at most one request in flight. -/

set_option autoImplicit false

namespace Kperf.Request.PostDel

abbrev Holder := Nat

inductive Event where
  | built (operation : Operation) (name : String)
  | did (operation : Operation) (name : String) (succeeded : Bool)
  deriving DecidableEq, Repr

structure Pool where
  state : PostDelState
  flights : Holder → Option (Operation × String)
  events : List Event

def Pool.init : Pool := ⟨.init, fun _ => none, []⟩

inductive Label where
  | pop (holder : Holder)
  | create (holder : Holder) (timestamp : Int)
  | drop (holder : Holder)
  | finish (holder : Holder) (succeeded : Bool)
  deriving DecidableEq, Repr

def step (pool : Pool) : Label → Option Pool
  | .pop holder =>
      match pool.flights holder, pool.state.cache.pop with
      | none, some (name, cache) =>
          some ⟨⟨cache, pool.state.resourceCounter⟩,
            Function.update pool.flights holder (some (.delete, name)),
            pool.events ++ [.built .delete name]⟩
      | _, _ => none
  | .create holder timestamp =>
      let counter := PostDelBuilder.nextCounter pool.state
      let name := PostDelBuilder.resourceName timestamp counter
      match pool.flights holder with
      | none =>
          some ⟨⟨pool.state.cache, counter⟩,
            Function.update pool.flights holder (some (.post, name)),
            pool.events ++ [.built .post name]⟩
      | some _ => none
  | .drop holder =>
      match pool.flights holder with
      | some _ => some ⟨pool.state, Function.update pool.flights holder none, pool.events⟩
      | none => none
  | .finish holder succeeded =>
      match pool.flights holder with
      | some (operation, name) =>
          some ⟨⟨pool.state.cache.settle operation name (!succeeded),
              pool.state.resourceCounter⟩,
            Function.update pool.flights holder none,
            pool.events ++ [.did operation name succeeded]⟩
      | none => none

def system : TransitionSystem Pool Label where
  initial := fun pool => pool = .init
  step := step

/-- A step with what it needed and what it changed. -/
inductive Move (pool : Pool) : Label → Pool → Prop where
  | pop {holder : Holder} {name : String} {rest : List String} :
      pool.flights holder = none → pool.state.cache.items = name :: rest →
      Move pool (.pop holder)
        ⟨⟨⟨rest⟩, pool.state.resourceCounter⟩,
          Function.update pool.flights holder (some (.delete, name)),
          pool.events ++ [.built .delete name]⟩
  | create {holder : Holder} {timestamp : Int} :
      pool.flights holder = none →
      Move pool (.create holder timestamp)
        ⟨⟨pool.state.cache, PostDelBuilder.nextCounter pool.state⟩,
          Function.update pool.flights holder (some (.post,
            PostDelBuilder.resourceName timestamp (PostDelBuilder.nextCounter pool.state))),
          pool.events ++ [.built .post
            (PostDelBuilder.resourceName timestamp (PostDelBuilder.nextCounter pool.state))]⟩
  | drop {holder : Holder} {operation : Operation} {name : String} :
      pool.flights holder = some (operation, name) →
      Move pool (.drop holder)
        ⟨pool.state, Function.update pool.flights holder none, pool.events⟩
  | finish {holder : Holder} {operation : Operation} {name : String} {succeeded : Bool} :
      pool.flights holder = some (operation, name) →
      Move pool (.finish holder succeeded)
        ⟨⟨pool.state.cache.settle operation name (!succeeded), pool.state.resourceCounter⟩,
          Function.update pool.flights holder none,
          pool.events ++ [.did operation name succeeded]⟩

theorem step_move {pool next : Pool} {label : Label} (stepped : step pool label = some next) :
    Move pool label next := by
  cases label with
  | pop holder =>
      dsimp only [step] at stepped
      split at stepped
      · rename_i name cache free popped
        cases stepped
        unfold Cache.pop at popped
        split at popped
        · cases popped
        · rename_i items
          cases popped
          exact .pop free items
      · cases stepped
  | create holder timestamp =>
      dsimp only [step] at stepped
      split at stepped
      · rename_i free
        cases stepped
        exact .create free
      · cases stepped
  | drop holder =>
      dsimp only [step] at stepped
      split at stepped
      · rename_i flight held
        cases stepped
        exact .drop held
      · cases stepped
  | finish holder succeeded =>
      dsimp only [step] at stepped
      split at stepped
      · rename_i operation name held
        cases stepped
        exact .finish held
      · cases stepped

theorem Move.step {pool next : Pool} {label : Label} (move : Move pool label next) :
    step pool label = some next := by
  cases move with
  | pop free items => simp [PostDel.step, Cache.pop, free, items]
  | create free => simp [PostDel.step, free]
  | drop held => simp [PostDel.step, held]
  | finish held => simp [PostDel.step, held]

end Kperf.Request.PostDel
