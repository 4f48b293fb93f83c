import Kperf.Library.Decimal
import Kperf.Library.History
import Kperf.Request.PostDel
import Mathlib.Data.List.Induction
import Mathlib.Data.List.Nodup

/-! Ownership and retention of the names of a postDel builder. Uniqueness rests
on the counter in the name; retention on the cache taking back what a failed
DELETE held. -/

set_option autoImplicit false

namespace Kperf.Request.PostDel

/-- The object exists as far as the builder knows: its POST returned nil and no
DELETE of it has returned nil since. -/
def Live (events : List Event) (name : String) : Prop :=
  ∃ before after, events = before ++ .did .post name true :: after ∧
    .did .delete name true ∉ after

theorem Live.append {events : List Event} {name : String} {event : Event}
    (live : Live events name) (other : event ≠ .did .delete name true) :
    Live (events ++ [event]) name := by
  obtain ⟨before, after, rfl, kept⟩ := live
  refine ⟨before, after ++ [event], by simp, ?_⟩
  rw [List.mem_append, List.mem_singleton, not_or]
  exact ⟨kept, other.symm⟩

theorem live_posted (events : List Event) (name : String) :
    Live (events ++ [.did .post name true]) name :=
  ⟨events, [], rfl, by simp⟩

/-- A DELETE is built only for a name that is live. -/
def DeleteLaw (before : List Event) : Event → Prop
  | .built .delete name => Live before name
  | _ => True

def Event.isBuilt : Event → Bool
  | .built _ _ => true
  | .did _ _ _ => false

def Event.isBuiltPost : Event → Bool
  | .built .post _ => true
  | _ => false

def builds (events : List Event) : Nat := events.countP Event.isBuilt

def posts (events : List Event) : Nat := events.countP Event.isBuiltPost

theorem posts_le_builds (events : List Event) : posts events ≤ builds events := by
  refine List.countP_mono_left fun event _ post => ?_
  cases event with
  | built operation name => rfl
  | did operation name succeeded => cases post

def Numbered (counter : Nat) (name : String) : Prop :=
  ∃ (timestamp : Int) (number : Nat), number ≤ counter ∧
    name = PostDelBuilder.resourceName timestamp number

theorem Numbered.mono {counter larger : Nat} {name : String} (numbered : Numbered counter name)
    (le : counter ≤ larger) : Numbered larger name := by
  obtain ⟨timestamp, number, below, rfl⟩ := numbered
  exact ⟨timestamp, number, Nat.le_trans below le, rfl⟩

theorem not_numbered_succ (counter : Nat) (timestamp : Int) :
    ¬ Numbered counter (PostDelBuilder.resourceName timestamp (counter + 1 : Nat)) := by
  rintro ⟨earlier, number, below, same⟩
  have equal : counter + 1 = number := (Decimal.dash_inj same).2
  omega

/-- Below `2^63` the atomic counter does not wrap. -/
theorem nextCounter_eq {state : PostDelState} {count : Nat}
    (counter : state.resourceCounter = count) (small : count + 1 < 2 ^ 63) :
    PostDelBuilder.nextCounter state = (count + 1 : Nat) := by
  have bounds : ((count : Int) + 1).bmod (2 ^ 64) = (count : Int) + 1 :=
    Int.bmod_eq_of_le (by omega) (by omega)
  rw [PostDelBuilder.nextCounter, addInt64, counter, bounds]
  rfl

def Pool.Holds (pool : Pool) (name : String) : Prop :=
  name ∈ pool.state.cache.items ∨ ∃ holder operation, pool.flights holder = some (operation, name)

/-- Every name has one owner: a place in the cache or one request in flight. -/
structure Owned (pool : Pool) : Prop where
  cacheOnce : pool.state.cache.items.Nodup
  flightOnce : ∀ {left right first second name}, pool.flights left = some (first, name) →
    pool.flights right = some (second, name) → left = right
  apart : ∀ {holder operation name}, pool.flights holder = some (operation, name) →
    name ∉ pool.state.cache.items
  lawful : History.Lawful DeleteLaw pool.events

structure Tracked (pool : Pool) : Prop where
  owned : Owned pool
  counter : pool.state.resourceCounter = posts pool.events
  numbered : ∀ {name}, pool.Holds name → Numbered (posts pool.events) name
  cacheLive : ∀ {name}, name ∈ pool.state.cache.items → Live pool.events name
  flightLive : ∀ {holder name}, pool.flights holder = some (.delete, name) →
    Live pool.events name

theorem tracked_init : Tracked .init where
  owned := ⟨by simp [Pool.init, PostDelState.init, Cache.init], by simp [Pool.init],
    by simp [Pool.init], History.lawful_nil⟩
  counter := rfl
  numbered := by simp [Pool.Holds, Pool.init, PostDelState.init, Cache.init]
  cacheLive := by simp [Pool.init, PostDelState.init, Cache.init]
  flightLive := by simp [Pool.init]

private theorem Tracked.keep_pop {pool : Pool} {holder : Holder} {name : String}
    {rest : List String} (tracked : Tracked pool)
    (items : pool.state.cache.items = name :: rest) :
    Tracked ⟨⟨⟨rest⟩, pool.state.resourceCounter⟩,
      Function.update pool.flights holder (some (.delete, name)),
      pool.events ++ [.built .delete name]⟩ := by
  obtain ⟨⟨cacheOnce, flightOnce, apart, lawful⟩, counter, numbered, cacheLive, flightLive⟩ :=
    tracked
  simp only [items, List.nodup_cons, List.mem_cons] at cacheOnce apart cacheLive
  have grounded : Live pool.events name := cacheLive (.inl rfl)
  have kept : ∀ {other}, Live pool.events other →
      Live (pool.events ++ [.built .delete name]) other := fun live => live.append (by simp)
  refine ⟨⟨cacheOnce.2, ?_, ?_, ?_⟩, ?_, ?_, ?_, ?_⟩
  · intro left right first second other
    dsimp only
    grind [Function.update_apply]
  · intro other operation taken
    dsimp only
    grind [Function.update_apply]
  · exact History.lawful_append_singleton lawful grounded
  · simpa [posts, Event.isBuiltPost] using counter
  · intro other holds
    have earlier : pool.Holds other := by
      rcases holds with cached | ⟨keeper, operation, held⟩
      · exact .inl (items ▸ List.mem_cons_of_mem _ cached)
      · dsimp only at held
        rw [Function.update_apply] at held
        split at held
        · cases held
          exact .inl (items ▸ List.mem_cons_self)
        · exact .inr ⟨keeper, operation, held⟩
    simpa [posts, Event.isBuiltPost] using numbered earlier
  · exact fun cached => kept (cacheLive (.inr cached))
  · intro keeper other held
    dsimp only at held
    rw [Function.update_apply] at held
    split at held
    · cases held
      exact kept grounded
    · exact kept (flightLive held)

private theorem Tracked.keep_create {pool : Pool} {holder : Holder} {timestamp : Int}
    (tracked : Tracked pool)
    (small : posts pool.events + 1 < 2 ^ 63) :
    Tracked ⟨⟨pool.state.cache, PostDelBuilder.nextCounter pool.state⟩,
      Function.update pool.flights holder (some (.post,
        PostDelBuilder.resourceName timestamp (PostDelBuilder.nextCounter pool.state))),
      pool.events ++ [.built .post
        (PostDelBuilder.resourceName timestamp (PostDelBuilder.nextCounter pool.state))]⟩ := by
  obtain ⟨⟨cacheOnce, flightOnce, apart, lawful⟩, counter, numbered, cacheLive, flightLive⟩ :=
    tracked
  rw [nextCounter_eq counter small]
  generalize made : PostDelBuilder.resourceName timestamp (posts pool.events + 1 : Nat) = name
  have unheld : ¬ pool.Holds name := fun holds =>
    not_numbered_succ _ timestamp (made ▸ numbered holds)
  have uncached : name ∉ pool.state.cache.items := fun cached => unheld (.inl cached)
  have unflown : ∀ keeper operation, pool.flights keeper ≠ some (operation, name) :=
    fun keeper operation held => unheld (.inr ⟨keeper, operation, held⟩)
  have counted : posts (pool.events ++ [.built .post name]) = posts pool.events + 1 := by
    simp [posts, Event.isBuiltPost]
  have kept : ∀ {other}, Live pool.events other →
      Live (pool.events ++ [.built .post name]) other := fun live => live.append (by simp)
  refine ⟨⟨cacheOnce, ?_, ?_, ?_⟩, ?_, ?_, ?_, ?_⟩
  · intro left right first second other
    dsimp only
    grind [Function.update_apply]
  · intro other operation taken
    dsimp only
    grind [Function.update_apply]
  · exact History.lawful_append_singleton lawful trivial
  · rw [counted]
  · intro other holds
    dsimp only
    rw [counted]
    rcases holds with cached | ⟨keeper, operation, held⟩
    · exact (numbered (.inl cached)).mono (Nat.le_succ _)
    · dsimp only at held
      rw [Function.update_apply] at held
      split at held
      · cases held
        exact ⟨timestamp, _, Nat.le_refl _, made.symm⟩
      · exact (numbered (.inr ⟨keeper, operation, held⟩)).mono (Nat.le_succ _)
  · exact fun cached => kept (cacheLive cached)
  · intro keeper other held
    dsimp only at held
    rw [Function.update_apply] at held
    split at held
    · cases held
    · exact kept (flightLive held)

private theorem Tracked.keep_drop {pool : Pool} {holder : Holder} (tracked : Tracked pool) :
    Tracked ⟨pool.state, Function.update pool.flights holder none, pool.events⟩ := by
  have released : ∀ {keeper operation name},
      Function.update pool.flights holder none keeper = some (operation, name) →
      pool.flights keeper = some (operation, name) :=
    fun held => (update_none_eq_some.mp held).2
  obtain ⟨⟨cacheOnce, flightOnce, apart, lawful⟩, counter, numbered, cacheLive, flightLive⟩ :=
    tracked
  refine ⟨⟨cacheOnce, ?_, ?_, lawful⟩, counter, ?_, cacheLive, ?_⟩
  · exact fun first second => flightOnce (released first) (released second)
  · exact fun held => apart (released held)
  · rintro name (cached | ⟨keeper, operation, held⟩)
    · exact numbered (.inl cached)
    · exact numbered (.inr ⟨keeper, operation, released held⟩)
  · exact fun held => flightLive (released held)

private theorem Tracked.keep_did {pool : Pool} {operation : Operation} {name : String}
    {succeeded : Bool} (tracked : Tracked pool) (unheld : ¬ pool.Holds name) :
    Tracked ⟨pool.state, pool.flights, pool.events ++ [.did operation name succeeded]⟩ := by
  have kept : ∀ {other}, pool.Holds other → Live pool.events other →
      Live (pool.events ++ [.did operation name succeeded]) other := by
    intro other holds live
    refine live.append fun same => ?_
    cases same
    exact unheld holds
  have uncounted : posts (pool.events ++ [.did operation name succeeded]) =
      posts pool.events := by
    simp [posts, Event.isBuiltPost]
  obtain ⟨⟨cacheOnce, flightOnce, apart, lawful⟩, counter, numbered, cacheLive, flightLive⟩ :=
    tracked
  refine ⟨⟨cacheOnce, flightOnce, apart, ?_⟩, ?_, ?_, ?_, ?_⟩
  · exact History.lawful_append_singleton lawful trivial
  · rw [uncounted, counter]
  · rw [uncounted]
    exact numbered
  · exact fun cached => kept (.inl cached) (cacheLive cached)
  · exact fun held => kept (.inr ⟨_, _, held⟩) (flightLive held)

private theorem Tracked.keep_push {pool : Pool} {name : String} (tracked : Tracked pool)
    (unheld : ¬ pool.Holds name) (known : Numbered (posts pool.events) name)
    (live : Live pool.events name) :
    Tracked ⟨⟨pool.state.cache.push name, pool.state.resourceCounter⟩, pool.flights,
      pool.events⟩ := by
  obtain ⟨⟨cacheOnce, flightOnce, apart, lawful⟩, counter, numbered, cacheLive, flightLive⟩ :=
    tracked
  have pushed : ∀ {other}, other ∈ (pool.state.cache.push name).items →
      other ∈ pool.state.cache.items ∨ other = name := by
    intro other member
    simpa [Cache.push] using member
  refine ⟨⟨?_, flightOnce, ?_, lawful⟩, counter, ?_, ?_, flightLive⟩
  · simp only [Cache.push]
    rw [List.nodup_append_comm]
    exact List.nodup_cons.mpr ⟨fun cached => unheld (.inl cached), cacheOnce⟩
  · intro holder operation other held member
    rcases pushed member with cached | rfl
    · exact apart held cached
    · exact unheld (.inr ⟨holder, operation, held⟩)
  · rintro other (member | flight)
    · rcases pushed member with cached | rfl
      · exact numbered (.inl cached)
      · exact known
    · exact numbered (.inr flight)
  · intro other member
    rcases pushed member with cached | rfl
    · exact cacheLive cached
    · exact live

private theorem Tracked.keep_finish {pool : Pool} {holder : Holder} {operation : Operation}
    {name : String} {succeeded : Bool} (tracked : Tracked pool)
    (held : pool.flights holder = some (operation, name)) :
    Tracked ⟨⟨pool.state.cache.settle operation name (!succeeded), pool.state.resourceCounter⟩,
      Function.update pool.flights holder none,
      pool.events ++ [.did operation name succeeded]⟩ := by
  have known : Numbered (posts pool.events) name := tracked.numbered (.inr ⟨holder, _, held⟩)
  have unheld : ¬ Pool.Holds ⟨pool.state, Function.update pool.flights holder none,
      pool.events⟩ name := by
    rintro (cached | ⟨keeper, other, flight⟩)
    · exact tracked.owned.apart held cached
    · obtain ⟨different, flown⟩ := update_none_eq_some.mp flight
      exact different (tracked.owned.flightOnce flown held)
  have dropped : Tracked ⟨pool.state, Function.update pool.flights holder none, pool.events⟩ :=
    tracked.keep_drop
  have returned : Tracked ⟨pool.state, Function.update pool.flights holder none,
      pool.events ++ [.did operation name succeeded]⟩ := dropped.keep_did unheld
  have still : Numbered (posts (pool.events ++ [.did operation name succeeded])) name := by
    simpa [posts, Event.isBuiltPost] using known
  -- the name goes back to the cache after a nil POST and after a failed DELETE
  cases operation with
  | post =>
      cases succeeded with
      | false => exact returned
      | true => exact returned.keep_push unheld still (live_posted _ _)
  | delete =>
      cases succeeded with
      | true => exact returned
      | false =>
          exact returned.keep_push unheld still ((tracked.flightLive held).append (by simp))

theorem Tracked.keep {pool next : Pool} {label : Label} (tracked : Tracked pool)
    (move : Move pool label next) (small : builds next.events < 2 ^ 63) : Tracked next := by
  cases move with
  | pop _ items => exact tracked.keep_pop items
  | create =>
      refine tracked.keep_create ?_
      have bound := posts_le_builds pool.events
      have grown : builds pool.events + 1 < 2 ^ 63 := by
        simpa [builds, Event.isBuilt] using small
      omega
  | drop => exact tracked.keep_drop
  | finish held => exact tracked.keep_finish held

theorem Move.builds_le {pool next : Pool} {label : Label} (move : Move pool label next) :
    builds pool.events ≤ builds next.events := by
  cases move <;> simp [builds]

def TrackedBelow (pool : Pool) : Prop := builds pool.events < 2 ^ 63 → Tracked pool

/-- In every run of fewer than `2^63` builds each name has one owner. -/
theorem tracked_of_run {allowed : Pool → Label → Prop} {trace : List Label} {pool : Pool}
    (run : system.RunWith allowed trace pool) : TrackedBelow pool := by
  refine run.invariant (fun _ initial _ => initial ▸ tracked_init) ?_
  intro pool next label _ stepped tracked small
  have move := step_move stepped
  exact (tracked (Nat.lt_of_le_of_lt move.builds_le small)).keep move small

def Generated (name : String) : Prop :=
  ∃ timestamp counter, name = PostDelBuilder.resourceName timestamp counter

theorem Generated.slashFree {name : String} (generated : Generated name) : '/' ∉ name.toList := by
  obtain ⟨timestamp, counter, rfl⟩ := generated
  have first := Decimal.slash_notMem_toString timestamp
  have second := Decimal.slash_notMem_toString counter
  simp_all [PostDelBuilder.resourceName]

theorem Generated.dash {name : String} (generated : Generated name) : '-' ∈ name.toList := by
  obtain ⟨timestamp, counter, rfl⟩ := generated
  simp [PostDelBuilder.resourceName]

def HoldsGenerated (pool : Pool) : Prop := ∀ name, pool.Holds name → Generated name

theorem HoldsGenerated.keep {pool next : Pool} {label : Label} (known : HoldsGenerated pool)
    (move : Move pool label next) : HoldsGenerated next := by
  have flown : ∀ {holder operation name}, pool.flights holder = some (operation, name) →
      Generated name := fun held => known _ (.inr ⟨_, _, held⟩)
  rintro name (cached | ⟨keeper, operation, held⟩)
  · cases move with
    | pop _ items => exact known name (.inl (items ▸ List.mem_cons_of_mem _ cached))
    | create => exact known name (.inl cached)
    | drop => exact known name (.inl cached)
    | finish held =>
        rename_i holder operation finished succeeded
        have back : name ∈ pool.state.cache.items ∨ name = finished := by
          cases operation <;> cases succeeded <;> simp_all [Cache.settle, Cache.push]
        rcases back with cached | rfl
        · exact known name (.inl cached)
        · exact flown held
  · cases move with
    | pop _ items =>
        dsimp only at held
        rw [Function.update_apply] at held
        split at held
        · cases held
          exact known name (.inl (items ▸ List.mem_cons_self))
        · exact flown held
    | create =>
        dsimp only at held
        rw [Function.update_apply] at held
        split at held
        · cases held
          exact ⟨_, _, rfl⟩
        · exact flown held
    | drop => exact flown (update_none_eq_some.mp held).2
    | finish => exact flown (update_none_eq_some.mp held).2

/-- Every name a builder holds is one that it generated. -/
theorem generated_of_run {allowed : Pool → Label → Prop} {trace : List Label} {pool : Pool}
    (run : system.RunWith allowed trace pool) : HoldsGenerated pool := by
  refine run.invariant ?_ fun _ stepped known => HoldsGenerated.keep known (step_move stepped)
  rintro _ rfl name (cached | ⟨holder, operation, held⟩)
  · cases cached
  · cases held

/-- No created object is forgotten: a name that was posted and not deleted is
cached, or a DELETE of it is in flight. -/
def Retained (pool : Pool) : Prop :=
  ∀ name, .did .post name true ∈ pool.events → .did .delete name true ∉ pool.events →
    name ∈ pool.state.cache.items ∨ ∃ holder, pool.flights holder = some (.delete, name)

/-- No DELETE is given up before its `Do`. -/
def Retaining (pool : Pool) : Label → Prop
  | .drop holder => ∀ name, pool.flights holder ≠ some (.delete, name)
  | _ => True

private theorem flight_kept {flights : Holder → Option (Operation × String)}
    {holder keeper : Holder} {flight : Operation × String}
    {changed : Option (Operation × String)} (held : flights keeper = some flight)
    (other : flights holder ≠ some flight) :
    Function.update flights holder changed keeper = some flight := by
  rw [Function.update_of_ne]
  · exact held
  · rintro rfl
    exact other held

theorem Retained.keep {pool next : Pool} {label : Label} (retained : Retained pool)
    (allowed : Retaining pool label) (move : Move pool label next) : Retained next := by
  cases move with
  | @pop holder taken rest free items =>
      intro name posted undeleted
      dsimp only at posted undeleted ⊢
      rcases retained name (by simpa using posted) (by simpa using undeleted) with
          cached | ⟨keeper, held⟩
      · rw [items] at cached
        rcases List.mem_cons.mp cached with rfl | remains
        · exact .inr ⟨holder, by simp⟩
        · exact .inl remains
      · exact .inr ⟨keeper, flight_kept held (by simp [free])⟩
  | @create holder timestamp free =>
      intro name posted undeleted
      dsimp only at posted undeleted ⊢
      rcases retained name (by simpa using posted) (by simpa using undeleted) with
          cached | ⟨keeper, held⟩
      · exact .inl cached
      · exact .inr ⟨keeper, flight_kept held (by simp [free])⟩
  | @drop holder operation dropped flight =>
      intro name posted undeleted
      rcases retained name posted undeleted with cached | ⟨keeper, held⟩
      · exact .inl cached
      · exact .inr ⟨keeper, flight_kept held (allowed name)⟩
  | @finish holder operation returned succeeded flight =>
      intro name posted undeleted
      have still : .did .delete name true ∉ pool.events := fun member =>
        undeleted (List.mem_append_left _ member)
      by_cases own : name = returned
      · -- the name of this request: it enters the cache, or it is deleted now
        subst own
        cases operation with
        | post =>
            cases succeeded with
            | true => exact .inl (by simp [Cache.settle, Cache.push])
            | false =>
                rcases retained name (by simpa using posted) still with cached | ⟨keeper, held⟩
                · exact .inl cached
                · exact .inr ⟨keeper, flight_kept held (by simp [flight])⟩
        | delete =>
            cases succeeded with
            | true => exact absurd (List.mem_append_right _ (by simp)) undeleted
            | false => exact .inl (by simp [Cache.settle, Cache.push])
      · have earlier : .did .post name true ∈ pool.events := by
          rcases List.mem_append.mp posted with earlier | last
          · exact earlier
          · cases List.mem_singleton.mp last
            exact absurd rfl own
        rcases retained name earlier still with cached | ⟨keeper, held⟩
        · refine .inl ?_
          dsimp only
          unfold Cache.settle
          split
          · exact List.mem_append_left _ cached
          · exact List.mem_append_left _ cached
          · exact cached
        · refine .inr ⟨keeper, flight_kept held ?_⟩
          rw [flight]
          rintro ⟨⟩
          exact own rfl

theorem retained_of_run {trace : List Label} {pool : Pool}
    (run : system.RunWith Retaining trace pool) : Retained pool := by
  refine run.invariant ?_ fun allowed stepped retained =>
    retained.keep allowed (step_move stepped)
  rintro _ rfl name posted
  cases posted

end Kperf.Request.PostDel
