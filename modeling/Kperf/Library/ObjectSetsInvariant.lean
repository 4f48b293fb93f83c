import Kperf.Library.ObjectSets

/-! What holds over any number of commands that add and delete sets at once. -/

set_option autoImplicit false

namespace Kperf.ObjectSets

open LabelSelector (LabelValue)

variable {Object Args Item Choice : Type} (kind : Kind Object Args Item Choice)

/-- The items of the groups up to a value of the loop variable. -/
inductive Kind.Traverses (kind : Kind Object Args Item Choice) (args : Args) :
    Int → List Item → Prop where
  | start : kind.Traverses args 0 []
  | group {next after : Int} {passed group : List Item} :
      kind.Traverses args next passed → kind.groups args next = some (group, after) →
      kind.Traverses args after (passed ++ group)

/-- The names created since the log had a length. -/
def State.since (state : State Object Args Item) (mark : Nat) : List String :=
  (state.log.drop mark).map Prod.snd

/-- What a step does to the namespace and to the log. -/
inductive Effect (state next : State Object Args Item) : Prop where
  | none : next.stored = state.stored → next.log = state.log → Effect state next
  | insert {id : Nat} {object : Object} {set : String} :
      kind.name object ∉ state.stored → kind.owner (kind.name object) = some set →
      kind.set object = some set →
      next.stored = state.stored.insert (kind.name object) object →
      next.log = state.log ++ [(id, kind.name object)] → Effect state next
  | remove {name set : String} :
      set ∈ state.begun → kind.owner name = some set →
      (∀ object, state.stored.lookup name = some object → kind.set object = some set) →
      next.stored = state.stored.erase name → next.log = state.log → Effect state next

structure Follows (state next : State Object Args Item) : Prop where
  effect : Effect kind state next
  begun : state.begun ⊆ next.begun
  faulted : state.faulted ⊆ next.faulted

namespace Follows

variable {kind} {state next : State Object Args Item}

theorem log (follows : Follows kind state next) : ∃ more, next.log = state.log ++ more := by
  cases follows.effect with
  | none _ same | remove _ _ _ _ same => exact ⟨[], by rw [same, List.append_nil]⟩
  | insert _ _ _ _ grown => exact ⟨_, grown⟩

theorem logged (follows : Follows kind state next) : state.log ⊆ next.log := by
  obtain ⟨more, grown⟩ := follows.log
  rw [grown]
  exact List.subset_append_left ..

theorem since (follows : Follows kind state next) (mark : Nat) : state.since mark ⊆ next.since mark := by
  obtain ⟨more, grown⟩ := follows.log
  rw [State.since, State.since, grown, List.drop_append, List.map_append]
  exact List.subset_append_left ..

/-- What is stored afterwards was stored before or is in the log. -/
theorem stored (follows : Follows kind state next) {name : String} {object : Object}
    (found : next.stored.lookup name = some object) :
    state.stored.lookup name = some object ∨
      (∀ {mark}, mark ≤ state.log.length → name ∈ next.since mark) ∧
        ∃ set, kind.owner name = some set ∧ kind.set object = some set := by
  cases follows.effect with
  | none same =>
      rw [same] at found
      exact .inl found
  | @remove erased _ _ _ _ same =>
      rw [same] at found
      by_cases own : name = erased
      · rw [own, AList.lookup_erase] at found
        cases found
      · rw [AList.lookup_erase_ne own] at found
        exact .inl found
  | @insert id inserted set _ owned labelled same grown =>
      rw [same] at found
      by_cases own : name = kind.name inserted
      · subst own
        rw [AList.lookup_insert] at found
        cases found
        refine .inr ⟨fun {mark} short => ?_, set, owned, labelled⟩
        rw [State.since, grown, List.drop_append_of_le_length short]
        simp
      · rw [AList.lookup_insert_ne own] at found
        exact .inl found

/-- What no deletion was begun for stays. -/
theorem spares (follows : Follows kind state next) {name : String} {object : Object}
    (found : state.stored.lookup name = some object)
    (spared : ∀ set ∈ next.begun, kind.set object ≠ some set) :
    next.stored.lookup name = some object := by
  cases follows.effect with
  | none same =>
      rw [same]
      exact found
  | @remove erased set begun _ labelled same =>
      have other : name ≠ erased := by
        intro own
        subst own
        exact spared set (follows.begun begun) (labelled object found)
      rw [same, AList.lookup_erase_ne other]
      exact found
  | @insert id inserted set fresh _ _ same _ =>
      have other : name ≠ kind.name inserted := by
        intro own
        subst own
        rw [AList.lookup_eq_none.mpr fresh] at found
        cases found
      rw [same, AList.lookup_insert_ne other]
      exact found

end Follows

/-- An addition. As long as it has no error, every item passed is created or about to
be; an error comes from a failure or from a name in use. -/
structure Adds (state : State Object Args Item) (id : Nat) (args : Args)
    (left passed : List Item) (err : Option String) : Prop where
  created : err = none → ∀ item ∈ passed, item ∈ left ∨ (id, kind.itemName args item) ∈ state.log
  cause : ∀ message, err = some message →
    id ∈ state.faulted ∨ ∃ name, message = kind.createFailed name (kind.taken name)

/-- A deletion. Its names belong to its set, and as long as it has no error nothing of
the set is stored but what it still has to delete and what came after its listing. -/
structure Deletes (state : State Object Args Item) (id : Nat) (set : String) (mark : Nat)
    (items left : List String) (err : Option String) : Prop where
  begun : set ∈ state.begun
  marked : mark ≤ state.log.length
  owned : ∀ {name}, name ∈ items ∨ name ∈ left → kind.owner name = some set
  labelled : ∀ {name object}, name ∈ items ∨ name ∈ left →
    state.stored.lookup name = some object → kind.set object = some set
  covers : err = none → ∀ {name object}, state.stored.lookup name = some object →
    kind.set object = some set → name ∈ items ∨ name ∈ left ∨ name ∈ state.since mark
  cause : ∀ message, err = some message → id ∈ state.faulted

def Fits (state : State Object Args Item) (id : Nat) : Process Args Item → Prop
  | .adding args next left passed err =>
      kind.Traverses args next passed ∧ Adds kind state id args left passed err
  | .added args passed err => Adds kind state id args [] passed err ∧
      (err = none → ∃ next, kind.Traverses args next passed ∧ kind.groups args next = none)
  | .listing set => set.text ∈ state.begun
  | .deleting set mark items left err => Deletes kind state id set mark items left err
  | .deleted set mark none => Deletes kind state id set mark [] [] none
  | .deleted _ _ (some message) => id ∈ state.faulted ∨ message = kind.noneFound
  | .killed => True

section Follow

variable {kind} {state next : State Object Args Item} {id : Nat}

theorem Adds.follow {args : Args} {left passed : List Item} {err : Option String}
    (adds : Adds kind state id args left passed err) (follows : Follows kind state next) :
    Adds kind next id args left passed err where
  created := by
    intro clean item member
    rcases adds.created clean item member with waiting | logged
    · exact .inl waiting
    · exact .inr (follows.logged logged)
  cause := by
    intro message failed
    rcases adds.cause message failed with faulted | taken
    · exact .inl (follows.faulted faulted)
    · exact .inr taken

theorem Deletes.follow {set : String} {mark : Nat} {items left : List String} {err : Option String}
    (deletes : Deletes kind state id set mark items left err) (follows : Follows kind state next) :
    Deletes kind next id set mark items left err where
  begun := follows.begun deletes.begun
  marked := by
    obtain ⟨more, grown⟩ := follows.log
    rw [grown, List.length_append]
    exact Nat.le_add_right_of_le deletes.marked
  owned := deletes.owned
  labelled := by
    intro name object member found
    rcases follows.stored found with old | ⟨-, other, owner, labelled⟩
    · exact deletes.labelled member old
    · rw [deletes.owned member] at owner
      rw [labelled, owner]
  covers := by
    intro clean name object found labelled
    rcases follows.stored found with old | ⟨fresh, -⟩
    · rcases deletes.covers clean old labelled with waiting | waiting | since
      · exact .inl waiting
      · exact .inr (.inl waiting)
      · exact .inr (.inr (follows.since mark since))
    · exact .inr (.inr (fresh deletes.marked))
  cause := fun message failed => follows.faulted (deletes.cause message failed)

theorem Fits.follow {process : Process Args Item} (fits : Fits kind state id process)
    (follows : Follows kind state next) : Fits kind next id process := by
  cases process with
  | adding => exact ⟨fits.1, fits.2.follow follows⟩
  | added => exact ⟨fits.1.follow follows, fits.2⟩
  | listing => exact follows.begun fits
  | deleting => exact Deletes.follow fits follows
  | deleted set mark err =>
      cases err with
      | none => exact Deletes.follow fits follows
      | some message =>
          rcases fits with faulted | none
          · exact .inl (follows.faulted faulted)
          · exact .inr none
  | killed => trivial

end Follow

/-- The namespace that held `before`, with all commands and what they left behind. -/
structure Sound (before : StringMap Object) (state : State Object Args Item) : Prop where
  owned : ∀ {name object set}, state.stored.lookup name = some object →
    kind.set object = some set → kind.owner name = some set
  origin : ∀ {name object}, state.stored.lookup name = some object →
    before.lookup name = some object ∨
      ∃ set, kind.owner name = some set ∧ kind.set object = some set
  creates : ∀ {id object}, (id, Request.create object) ∈ state.pending →
    ∃ set, kind.owner (kind.name object) = some set ∧ kind.set object = some set
  removes : ∀ {id set name}, (id, Request.remove set name) ∈ state.pending →
    set ∈ state.begun ∧ kind.owner name = some set ∧
      ∀ object, state.stored.lookup name = some object → kind.set object = some set
  fits : ∀ {id process}, state.processes id = some process → Fits kind state id process
  kept : ∀ {name object}, before.lookup name = some object →
    (∀ set ∈ state.begun, kind.set object ≠ some set) → state.stored.lookup name = some object
  logged : ∀ {id name}, (id, name) ∈ state.log →
    ∃ set, kind.owner name = some set ∧ (set ∉ state.begun →
      ∃ object, state.stored.lookup name = some object ∧ kind.set object = some set)
  once : ∀ {first second name set}, (first, name) ∈ state.log → (second, name) ∈ state.log →
    kind.owner name = some set → set ∉ state.begun → first = second

section Soundness

variable {kind} {before : StringMap Object} {state next : State Object Args Item}

theorem sound_init (owned : ∀ {name object set}, before.lookup name = some object →
      kind.set object = some set → kind.owner name = some set) :
    Sound kind before (init Args Item before) where
  owned := owned
  origin := .inl
  creates := fun member => by cases member
  removes := fun member => by cases member
  fits := fun found => by cases found
  kept := fun found _ => found
  logged := fun member => by cases member
  once := fun member => by cases member

/-- A removal that was due stays due. -/
theorem Follows.labelled {name set : String} (follows : Follows kind state next)
    (owner : kind.owner name = some set)
    (labelled : ∀ object, state.stored.lookup name = some object → kind.set object = some set)
    {object : Object} (found : next.stored.lookup name = some object) :
    kind.set object = some set := by
  rcases follows.stored found with old | ⟨-, other, own, labelled⟩
  · exact labelled object old
  · rw [owner] at own
    rw [labelled, own]

/-- A name in the log was there before, or its object was created just now. -/
theorem Follows.log_cases (follows : Follows kind state next) {id : Nat} {name : String}
    (member : (id, name) ∈ next.log) :
    (id, name) ∈ state.log ∨ ∃ object set, next.stored.lookup name = some object ∧
      kind.owner name = some set ∧ kind.set object = some set := by
  cases follows.effect with
  | none _ same | remove _ _ _ _ same =>
      rw [same] at member
      exact .inl member
  | @insert _ object set _ owner labelled stored grown =>
      rw [grown] at member
      rcases List.mem_append.mp member with old | new
      · exact .inl old
      · cases List.mem_singleton.mp new
        refine .inr ⟨object, set, ?_, owner, labelled⟩
        rw [stored]
        exact AList.lookup_insert _

theorem Follows.stays (follows : Follows kind state next) {name set : String} {object : Object}
    (found : state.stored.lookup name = some object) (labelled : kind.set object = some set)
    (unbegun : set ∉ next.begun) : next.stored.lookup name = some object := by
  refine follows.spares found fun other begun same => ?_
  rw [labelled] at same
  cases same
  exact unbegun begun

/-- A step keeps everything, if what it left behind and its own process are in order. -/
theorem Sound.follow (sound : Sound kind before state) (follows : Follows kind state next)
    (creates : ∀ {id object}, (id, Request.create object) ∈ next.pending →
      (id, Request.create object) ∈ state.pending ∨
        ∃ set, kind.owner (kind.name object) = some set ∧ kind.set object = some set)
    (removes : ∀ {id set name}, (id, Request.remove set name) ∈ next.pending →
      (id, Request.remove set name) ∈ state.pending ∨ set ∈ state.begun ∧
        kind.owner name = some set ∧
        ∀ object, state.stored.lookup name = some object → kind.set object = some set)
    (processes : ∀ {id process}, next.processes id = some process →
      state.processes id = some process ∨ Fits kind next id process) : Sound kind before next where
  owned := by
    intro name object set found labelled
    rcases follows.stored found with old | ⟨-, other, owner, label⟩
    · exact sound.owned old labelled
    · rw [labelled] at label
      rw [owner, label]
  origin := by
    intro name object found
    rcases follows.stored found with old | ⟨-, created⟩
    · exact sound.origin old
    · exact .inr created
  creates := by
    intro id object member
    rcases creates member with old | new
    · exact sound.creates old
    · exact new
  removes := by
    intro id set name member
    have due : set ∈ state.begun ∧ kind.owner name = some set ∧
        ∀ object, state.stored.lookup name = some object → kind.set object = some set := by
      rcases removes member with old | new
      · exact sound.removes old
      · exact new
    obtain ⟨begun, owner, labelled⟩ := due
    exact ⟨follows.begun begun, owner, fun object found => follows.labelled owner labelled found⟩
  fits := by
    intro id process found
    rcases processes found with old | new
    · exact (sound.fits old).follow follows
    · exact new
  kept := by
    intro name object found spared
    refine follows.spares (sound.kept found fun set begun => ?_) spared
    exact spared set (follows.begun begun)
  logged := by
    intro id name member
    rcases follows.log_cases member with old | ⟨object, set, found, owner, labelled⟩
    · obtain ⟨set, owner, stays⟩ := sound.logged old
      refine ⟨set, owner, fun unbegun => ?_⟩
      obtain ⟨object, found, labelled⟩ := stays fun begun => unbegun (follows.begun begun)
      exact ⟨object, follows.stays found labelled unbegun, labelled⟩
    · exact ⟨set, owner, fun _ => ⟨object, found, labelled⟩⟩
  once := by
    intro first second name set member other owner unbegun
    have earlier : set ∉ state.begun := fun begun => unbegun (follows.begun begun)
    have stored : ∀ {id}, (id, name) ∈ state.log → name ∈ state.stored := by
      intro id member
      obtain ⟨named, own, stays⟩ := sound.logged member
      rw [owner] at own
      cases own
      obtain ⟨object, found, -⟩ := stays earlier
      exact AList.lookup_isSome.mp (by rw [found]; rfl)
    cases follows.effect with
    | none _ same | remove _ _ _ _ same =>
        rw [same] at member other
        exact sound.once member other owner earlier
    | insert fresh _ _ _ grown =>
        rw [grown] at member other
        rcases List.mem_append.mp member with old | new <;>
          rcases List.mem_append.mp other with old' | new'
        · exact sound.once old old' owner earlier
        · cases List.mem_singleton.mp new'
          exact absurd (stored old) fresh
        · cases List.mem_singleton.mp new
          exact absurd (stored old') fresh
        · cases List.mem_singleton.mp new
          cases List.mem_singleton.mp new'
          rfl

variable {id : Nat} {process : Process Args Item}

theorem Sound.update (sound : Sound kind before state) (follows : Follows kind state next)
    (processes : next.processes = Function.update state.processes id (some process))
    (fits : Fits kind next id process)
    (creates : ∀ {id object}, (id, Request.create object) ∈ next.pending →
      (id, Request.create object) ∈ state.pending ∨
        ∃ set, kind.owner (kind.name object) = some set ∧ kind.set object = some set)
    (removes : ∀ {id set name}, (id, Request.remove set name) ∈ next.pending →
      (id, Request.remove set name) ∈ state.pending ∨ set ∈ state.begun ∧
        kind.owner name = some set ∧
        ∀ object, state.stored.lookup name = some object → kind.set object = some set) :
    Sound kind before next := by
  refine sound.follow follows creates removes fun {other stands} found => ?_
  rw [processes] at found
  by_cases own : other = id
  · subst other
    rw [Function.update_self] at found
    cases found
    exact .inr fits
  · rw [Function.update_of_ne own] at found
    exact .inl found

/-- The same for a step that leaves no request behind. -/
theorem Sound.advance (sound : Sound kind before state) (follows : Follows kind state next)
    (processes : next.processes = Function.update state.processes id (some process))
    (pending : next.pending = state.pending) (fits : Fits kind next id process) : Sound kind before next :=
  sound.update follows processes fits (fun member => .inl (pending ▸ member))
    (fun member => .inl (pending ▸ member))

theorem mem_leave {sent : Bool} {request other : Request Object} {owner : Nat}
    (member : (owner, other) ∈ (state.leave id sent request).pending) :
    (owner, other) ∈ state.pending ∨ other = request := by
  unfold State.leave at member
  dsimp only at member
  split_ifs at member
  · rcases List.mem_append.mp member with old | new
    · exact .inl old
    · cases List.mem_singleton.mp new
      exact .inr rfl
  · exact .inl member

theorem mem_select {order : RangeOrder} {set : LabelValue} {name : String}
    {stored : StringMap Object} :
    name ∈ kind.select order set.text stored ↔
      ∃ object, stored.lookup name = some object ∧ kind.set object = some set.text := by
  simp only [Kind.select, List.mem_map, List.mem_filter, kind.exact set,
    (order.perm stored).mem_iff]
  constructor
  · rintro ⟨⟨key, object⟩, ⟨member, labelled⟩, rfl⟩
    exact ⟨object, AList.mem_lookup_iff.mpr member, labelled⟩
  · rintro ⟨object, found, labelled⟩
    exact ⟨⟨name, object⟩, ⟨AList.mem_lookup_iff.mp found, labelled⟩, rfl⟩

theorem fits_enterGroup {args : Args} {after : Int} {passed : List Item}
    (traverses : kind.Traverses args after passed)
    (created : ∀ item ∈ passed, (id, kind.itemName args item) ∈ state.log) :
    Fits kind state id (enterGroup kind args after passed) := by
  unfold enterGroup
  split
  · rename_i group further found
    refine ⟨traverses.group found, fun _ item member => ?_, fun message failed => ?_⟩
    · rcases List.mem_append.mp member with old | new
      · exact .inr (created item old)
      · exact .inl new
    · cases failed
  · rename_i ended
    refine ⟨⟨fun _ item member => .inr (created item member), fun message failed => ?_⟩,
      fun _ => ⟨after, traverses, ended⟩⟩
    cases failed

theorem fits_enterBatch {set : String} {mark : Nat} {items : List String}
    (deletes : Deletes kind state id set mark items [] none) :
    Fits kind state id (enterBatch kind set mark items) := by
  unfold enterBatch
  split_ifs with ended
  · subst ended
    exact deletes
  · have split : ∀ {name}, name ∈ items.drop kind.batch ∨ name ∈ items.take kind.batch ↔
        name ∈ items := by
      intro name
      conv_rhs => rw [← List.take_append_drop kind.batch items]
      rw [List.mem_append, or_comm]
    refine ⟨deletes.begun, deletes.marked, fun member => deletes.owned (.inl (split.mp member)),
      fun member => deletes.labelled (.inl (split.mp member)), fun clean name object found labelled => ?_,
      deletes.cause⟩
    rcases deletes.covers clean found labelled with waiting | none | since
    · rw [← or_assoc]
      exact .inl (split.mpr waiting)
    · cases none
    · exact .inr (.inr since)

theorem Follows.setProcess (follows : Follows kind state next) (id : Nat)
    (process : Process Args Item) : Follows kind state (next.setProcess id process) := by
  refine ⟨?_, follows.begun, follows.faulted⟩
  cases follows.effect with
  | none stored log => exact .none stored log
  | insert fresh owner labelled stored log => exact .insert fresh owner labelled stored log
  | remove begun owner labelled stored log => exact .remove begun owner labelled stored log

theorem follows_setProcess (process : Process Args Item) :
    Follows kind state (state.setProcess id process) :=
  ⟨.none rfl rfl, List.Subset.refl _, List.Subset.refl _⟩

theorem follows_fault (process : Process Args Item) :
    Follows kind state ((state.fault id).setProcess id process) :=
  ⟨.none rfl rfl, List.Subset.refl _, List.subset_cons_self ..⟩

theorem follows_leave (sent : Bool) (request : Request Object) (process : Process Args Item) :
    Follows kind state (((state.leave id sent request).fault id).setProcess id process) :=
  ⟨.none rfl rfl, List.Subset.refl _, List.subset_cons_self ..⟩

/-- The error of a call becomes that of its group, unless there was one before. -/
theorem Adds.fail [DecidableEq Item] {args : Args} {left passed : List Item}
    {err : Option String} {message : String} (adds : Adds kind state id args left passed err)
    (item : Item)
    (cause : id ∈ state.faulted ∨ ∃ name, message = kind.createFailed name (kind.taken name)) :
    Adds kind state id args (left.erase item) passed (err.or (some message)) := by
  refine ⟨fun clean => ?_, fun shown failed => ?_⟩
  · cases err <;> cases clean
  · cases err with
    | none =>
        cases failed
        exact cause
    | some earlier =>
        cases failed
        exact adds.cause _ rfl

theorem Deletes.drop {set name : String} {mark : Nat} {items left : List String}
    {err failed : Option String} (deletes : Deletes kind state id set mark items left err)
    (cause : ∀ message, failed = some message → id ∈ state.faulted)
    (covers : failed = none → ∀ {other object}, state.stored.lookup other = some object →
      kind.set object = some set →
        other ∈ items ∨ other ∈ left.erase name ∨ other ∈ state.since mark) :
    Deletes kind state id set mark items (left.erase name) failed where
  begun := deletes.begun
  marked := deletes.marked
  owned := fun member => deletes.owned (member.imp_right List.mem_of_mem_erase)
  labelled := fun member => deletes.labelled (member.imp_right List.mem_of_mem_erase)
  covers := covers
  cause := cause

theorem Move.sound [DecidableEq Item] (move : Move kind state id process next)
    (standing : state.processes id = some process) (sound : Sound kind before state) :
    Sound kind before next := by
  have fits := sound.fits standing
  cases move with
  | unbuilt =>
      obtain ⟨traverses, adds⟩ := fits
      refine sound.advance (follows_fault _) rfl rfl ⟨traverses, ?_⟩
      exact (adds.follow (follows_fault _)).fail _ (.inl List.mem_cons_self)
  | @refused args _ _ _ _ _ _ object sent _ built =>
      obtain ⟨traverses, adds⟩ := fits
      obtain ⟨named, labelled⟩ := kind.made built
      refine sound.update (follows_leave ..) rfl
        ⟨traverses, (adds.follow (follows_leave ..)).fail _ (.inl List.mem_cons_self)⟩ ?_ ?_
      · intro owner other member
        rcases mem_leave member with old | same
        · exact .inl old
        · cases same
          exact .inr ⟨kind.target args, by rw [named]; exact kind.owned args _, labelled⟩
      · intro owner set name member
        rcases mem_leave member with old | same
        · exact .inl old
        · cases same
  | taken present =>
      obtain ⟨traverses, adds⟩ := fits
      refine sound.advance (follows_setProcess _) rfl rfl ⟨traverses, ?_⟩
      exact (adds.follow (follows_setProcess _)).fail _ (.inr ⟨_, rfl⟩)
  | @create args _ _ _ _ item _ object built fresh =>
      obtain ⟨traverses, adds⟩ := fits
      obtain ⟨named, labelled⟩ := kind.made built
      have follows : Follows kind state (state.insert id kind object) := by
        have owner := kind.owned args item
        rw [← named] at fresh owner
        exact ⟨.insert fresh owner labelled rfl rfl, List.Subset.refl _, List.Subset.refl _⟩
      refine sound.advance (follows.setProcess _ _) rfl rfl ⟨traverses, ?_, ?_⟩
      · intro clean other member
        by_cases own : other = item
        · subst other
          refine .inr (List.mem_append_right _ ?_)
          rw [named]
          exact List.mem_singleton.mpr rfl
        · rcases adds.created clean other member with waiting | logged
          · exact .inl ((List.mem_erase_of_ne own).mpr waiting)
          · exact .inr (List.mem_append_left _ logged)
      · exact adds.cause
  | addFailed =>
      obtain ⟨-, adds⟩ := fits
      refine sound.advance (follows_setProcess _) rfl rfl
        ⟨adds.follow (follows_setProcess _), fun clean => ?_⟩
      cases clean
  | group =>
      obtain ⟨traverses, adds⟩ := fits
      refine sound.advance (follows_setProcess _) rfl rfl (fits_enterGroup traverses ?_)
      intro item member
      rcases adds.created rfl item member with none | logged
      · cases none
      · exact logged
  | listFails =>
      exact sound.advance (follows_fault _) rfl rfl (.inl List.mem_cons_self)
  | listEmpty => exact sound.advance (follows_setProcess _) rfl rfl (.inr rfl)
  | @list set order =>
      refine sound.advance (follows_setProcess _) rfl rfl (fits_enterBatch ?_)
      refine ⟨fits, Nat.le_refl _, ?_, ?_, ?_, fun message failed => by cases failed⟩
      · rintro name (listed | none)
        · obtain ⟨object, found, labelled⟩ := mem_select.mp listed
          exact sound.owned found labelled
        · cases none
      · rintro name object (listed | none) found
        · obtain ⟨other, same, labelled⟩ := mem_select.mp listed
          cases found.symm.trans same
          exact labelled
        · cases none
      · intro _ name object found labelled
        exact .inl (mem_select.mpr ⟨object, found, labelled⟩)
  | @deleteFails set name _ _ _ _ err sent waiting =>
      refine sound.update (follows_leave ..) rfl ?_ ?_ ?_
      · refine (Deletes.follow fits (follows_leave ..)).drop (fun _ _ => List.mem_cons_self)
          fun clean => ?_
        cases err <;> cases clean
      · intro owner other member
        rcases mem_leave member with old | same
        · exact .inl old
        · cases same
      · intro owner other target member
        rcases mem_leave member with old | same
        · exact .inl old
        · cases same
          exact .inr ⟨fits.begun, fits.owned (.inr waiting), fun _ => fits.labelled (.inr waiting)⟩
  | @delete set name mark items left err waiting =>
      have follows : Follows kind state (state.remove name) :=
        ⟨.remove fits.begun (fits.owned (.inr waiting)) (fun _ => fits.labelled (.inr waiting)) rfl
          rfl, List.Subset.refl _, List.Subset.refl _⟩
      refine sound.advance (follows.setProcess _ _) rfl rfl ?_
      have deletes := Deletes.follow fits
        (follows.setProcess id (.deleting set mark items (left.erase name) err))
      refine deletes.drop deletes.cause fun clean {other object} found labelled => ?_
      have different : other ≠ name := by
        intro own
        subst own
        have gone : (state.stored.erase other).lookup other = none := AList.lookup_erase ..
        cases gone.symm.trans found
      rcases deletes.covers clean found labelled with later | waiting | since
      · exact .inl later
      · exact .inr (.inl ((List.mem_erase_of_ne different).mpr waiting))
      · exact .inr (.inr since)
  | deleteFailed =>
      exact sound.advance (follows_setProcess _) rfl rfl (.inl (fits.cause _ rfl))
  | batch =>
      exact sound.advance (follows_setProcess _) rfl rfl
        (fits_enterBatch (Deletes.follow fits (follows_setProcess _)))
  | kill => exact sound.advance (follows_setProcess _) rfl rfl trivial

theorem Transition.sound [DecidableEq Item] (transition : Transition kind state next)
    (sound : Sound kind before state) : Sound kind before next := by
  cases transition with
  | add =>
      refine sound.advance (follows_setProcess _) rfl rfl (fits_enterGroup .start ?_)
      intro item none
      cases none
  | @delete id set =>
      have follows : Follows kind state
          ({ state with begun := set.text :: state.begun }.setProcess id (.listing set)) :=
        ⟨.none rfl rfl, List.subset_cons_self .., List.Subset.refl _⟩
      exact sound.advance follows rfl rfl (show Fits kind _ id (.listing set) from List.mem_cons_self)
  | process standing move => exact move.sound standing sound
  | @land position id request found =>
      have member := List.mem_of_getElem? found
      have pending : ∀ {other : Nat × Request Object},
          other ∈ state.pending.eraseIdx position → other ∈ state.pending :=
        List.mem_of_mem_eraseIdx
      cases request with
      | create object =>
          obtain ⟨set, owner, labelled⟩ := sound.creates member
          simp only [ObjectSets.land]
          split_ifs with present
          · exact sound.follow ⟨.none rfl rfl, List.Subset.refl _, List.Subset.refl _⟩
              (fun member => .inl (pending member)) (fun member => .inl (pending member)) .inl
          · exact sound.follow
              ⟨.insert present owner labelled rfl rfl, List.Subset.refl _, List.Subset.refl _⟩
              (fun member => .inl (pending member)) (fun member => .inl (pending member)) .inl
      | remove set name =>
          obtain ⟨begun, owner, labelled⟩ := sound.removes member
          exact sound.follow
            ⟨.remove begun owner labelled rfl rfl, List.Subset.refl _, List.Subset.refl _⟩
            (fun member => .inl (pending member)) (fun member => .inl (pending member)) .inl

/-- Commands over a namespace whose labelled objects have names of their sets. -/
theorem sound_of_run [DecidableEq Item] {trace : List (Label Args Item Choice)}
    (owned : ∀ {name object set}, before.lookup name = some object →
      kind.set object = some set → kind.owner name = some set)
    (run : (system kind before).Run trace state) : Sound kind before state := by
  refine run.invariant ?_ ?_
  · intro state initial
    rw [initial]
    exact sound_init owned
  · intro state next label _ stepped sound
    exact (step_transition stepped).sound sound

end Soundness

end Kperf.ObjectSets
