import Kperf.Runner.ServerProgress

/-! The runners of the groups. When Kubernetes lists the pods of a group it shows them as
they are, and a group finishes when its runners have exited. Then no runner is turned away,
whatever fails between it and the server, and the summary begins after the last of them. -/

set_option autoImplicit false

namespace Kperf.Runner.Server

open Types Summary

/-- The pods of every group, which are named after it. -/
structure Roster (setting : Setting) where
  pods : String → List String
  named : ∀ {group pod}, pod ∈ pods group → group.toList.isPrefixOf pod.toList = true
  apart : (setting.groups.flatMap pods).Nodup

def Roster.all {setting : Setting} (roster : Roster setting) : List String :=
  setting.groups.flatMap roster.pods

/-- The group that a handler asks for its pods next. -/
def Stage.asks : Stage → Option String
  | .checking (group :: _) => some group
  | _ => none

/-- The group that the summary lists next. -/
def Phase.lists : Phase → Option String
  | .merging [] (group :: _) => some group
  | _ => none

def Exact {setting : Setting} (roster : Roster setting) (state : State) : Label → Prop
  | .check id (some pods) => ∀ attempt ∈ state.attempts id, ∀ group ∈ attempt.stage.asks,
      pods = roster.pods group
  | .list (some pods) => ∀ group ∈ state.summary.phase.lists, pods = roster.pods group
  | .finish group => ∀ pod ∈ roster.pods group, state.clients pod = .exited 0
  | _ => True

instance {setting : Setting} (roster : Roster setting) (state : State) (label : Label) :
    Decidable (Exact roster state label) :=
  match label with
  | .check id (some pods) => inferInstanceAs (Decidable (∀ attempt ∈ state.attempts id,
      ∀ group ∈ attempt.stage.asks, pods = roster.pods group))
  | .list (some pods) => inferInstanceAs
      (Decidable (∀ group ∈ state.summary.phase.lists, pods = roster.pods group))
  | .finish group => inferInstanceAs
      (Decidable (∀ pod ∈ roster.pods group, state.clients pod = .exited 0))
  | .check _ none | .list none | .post _ _ | .openWriter _ _ | .copy _ _ _ | .bodyEnds _
  | .bodyFails _ | .work _ | .answer _ | .receive _ | .lose _ | .summarize | .openReader
  | .readerWork _ | .readAll _ _ | .publish _ | .get _ | .cancel _ | .crash => .isTrue trivial

def Faithful {setting : Setting} (roster : Roster setting) (state : State) (label : Label) : Prop :=
  Regular state label ∧ Exact roster state label

instance {setting : Setting} (roster : Roster setting) (state : State) (label : Label) :
    Decidable (Faithful roster state label) :=
  inferInstanceAs (Decidable (Regular state label ∧ Exact roster state label))

section Rosters

variable {setting : Setting} {roster : Roster setting} {group pod : String}

theorem Roster.mem_all : pod ∈ roster.all ↔ ∃ group ∈ setting.groups, pod ∈ roster.pods group :=
  List.mem_flatMap

/-- What a group answers that is asked for the pod. -/
theorem Roster.isControlled_eq (roster : Roster setting) (group pod : String) :
    isControlled group pod (some (roster.pods group)) = some (decide (pod ∈ roster.pods group)) := by
  unfold isControlled
  split_ifs with named
  · rfl
  · have stranger : pod ∉ roster.pods group := fun member => named (roster.named member)
    rw [decide_eq_false stranger]

end Rosters

section Attempts

variable {setting : Setting} {state next : State} {id : AttemptId} {attempt : Attempt}

/-- What the answer of a group makes of a handler. -/
def Attempt.told (attempt : Attempt) (rest : List String) : Option Bool → Attempt
  | none => { attempt with stage := .done, status := some 500 }
  | some true => { attempt with stage := .opening }
  | some false => { attempt with stage := .checking rest }

theorem check_of_step {group : String} {rest : List String} {pods : Option (List String)}
    (found : state.attempts id = some attempt) (stands : attempt.stage = .checking (group :: rest))
    (stepped : step setting state (.check id pods) = some next) :
    next.attempts = Function.update state.attempts id
      (some (attempt.told rest (isControlled group attempt.pod pods))) := by
  simp only [step, Label.attempt, Option.bind_some, found, stepAttempt, stands] at stepped
  split at stepped
  · rename_i answered
    cases stepped
    rw [answered]
    rfl
  · rename_i answered
    cases stepped
    rw [answered]
    rfl
  · rename_i answered
    cases stepped
    rw [answered]
    rfl

end Attempts

/-! No runner is turned away. -/

/-- A handler that can still come to the group of its runner, and has not refused it. -/
def Welcomes {setting : Setting} (roster : Roster setting) (attempt : Attempt) : Prop :=
  ∀ group ∈ setting.groups, attempt.pod ∈ roster.pods group →
    attempt.status ≠ some 404 ∧ ∀ {groups}, attempt.stage = .checking groups → group ∈ groups

structure Welcome {setting : Setting} (roster : Roster setting) (state : State) : Prop where
  attempts : ∀ {id attempt}, state.attempts id = some attempt → Welcomes roster attempt
  clients : ∀ {pod code}, pod ∈ roster.all → state.clients pod = .exited code → code = 0

section Welcome

variable {setting : Setting} {roster : Roster setting} {state next : State} {label : Label}

theorem Welcomes.told {attempt : Attempt} {group : String} {rest : List String}
    {pods : Option (List String)} (welcomes : Welcomes roster attempt)
    (stands : attempt.stage = .checking (group :: rest))
    (shown : ∀ names, pods = some names → names = roster.pods group) :
    Welcomes roster (attempt.told rest (isControlled group attempt.pod pods)) := by
  intro own known member
  have kept : (attempt.told rest (isControlled group attempt.pod pods)).pod = attempt.pod := by
    unfold Attempt.told
    split <;> rfl
  rw [kept] at member
  obtain ⟨unrefused, waiting⟩ := welcomes own known member
  have asked := waiting stands
  cases answered : isControlled group attempt.pod pods with
  | none => exact ⟨by simp [Attempt.told], by simp [Attempt.told]⟩
  | some controlled =>
      cases controlled with
      | true => exact ⟨unrefused, by simp [Attempt.told]⟩
      | false =>
          refine ⟨unrefused, fun {groups} left => ?_⟩
          simp only [Attempt.told, Stage.checking.injEq] at left
          subst left
          rcases List.mem_cons.mp asked with same | later
          · subst same
            cases pods with
            | none =>
                rw [isControlled, if_pos (roster.named member)] at answered
                cases answered
            | some names =>
                rw [shown names rfl, roster.isControlled_eq, decide_eq_true member] at answered
                cases answered
          · exact later

theorem Welcomes.keep {attempt updated : Attempt} (welcomes : Welcomes roster attempt)
    (pod : updated.pod = attempt.pod)
    (status : updated.status = attempt.status ∨ ∃ code, updated.status = some code ∧ code ≠ 404)
    (stage : ∀ {groups}, updated.stage ≠ .checking groups) : Welcomes roster updated := by
  intro own known member
  rw [pod] at member
  refine ⟨?_, fun standing => absurd standing stage⟩
  rcases status with same | ⟨code, answered, other⟩
  · rw [same]
    exact (welcomes own known member).1
  · rw [answered]
    exact fun refused => other (Option.some.inj refused)

theorem commitStatus_ne (result : LocalStore.CommitResult) : commitStatus result ≠ 404 := by
  cases result <;> simp [commitStatus]

/-- Where a call of the store takes a handler. -/
theorem workStage_ne {writer : LocalStore.Stage} {stage after : Stage} {label : LocalStore.Label}
    (works : workStage writer stage label = some after) {groups : List String} :
    after ≠ .checking groups := by
  rcases workStage_stages works with ⟨-, same | ⟨result, same⟩⟩ | ⟨-, same | same⟩ <;> simp [same]

theorem AttemptMove.welcomes {id : AttemptId} {attempt : Attempt}
    (move : AttemptMove setting state id attempt label next)
    (found : state.attempts id = some attempt) (stepped : step setting state label = some next)
    (shown : Exact roster state label) (welcomes : Welcomes roster attempt) :
    ∃ updated, next.attempts = Function.update state.attempts id (some updated) ∧
      Welcomes roster updated := by
  cases move with
  | refuse stands =>
      refine ⟨_, rfl, fun group known member => ?_⟩
      cases (welcomes group known member).2 stands
  | checkFails stands | accept stands | pass stands =>
      refine ⟨_, check_of_step found stands stepped, welcomes.told stands ?_⟩
      intro names listed
      subst listed
      exact shown attempt found _ (by rw [stands]; rfl)
  | openFails | copiedShort | cut =>
      refine ⟨_, rfl, ?_⟩
      exact welcomes.keep rfl (.inr ⟨500, rfl, by decide⟩) (by simp)
  | opened | copied | commit =>
      refine ⟨_, rfl, ?_⟩
      exact welcomes.keep rfl (.inl rfl) (by simp)
  | work _ _ works =>
      refine ⟨_, rfl, ?_⟩
      exact welcomes.keep rfl (.inl rfl) (workStage_ne works)
  | answer =>
      refine ⟨_, rfl, ?_⟩
      exact welcomes.keep rfl (.inr ⟨_, rfl, commitStatus_ne _⟩) (by simp)

theorem Client.receive_exited {code exit : Nat} (exited : Client.receive code = .exited exit)
    (unrefused : code ≠ 404) : exit = 0 := by
  unfold Client.receive at exited
  split_ifs at exited
  · cases exited
    rfl
  · cases exited
    rfl

theorem Welcome.keep (welcome : Welcome roster state) (uploading : Uploading setting state)
    (shown : Exact roster state label) (stepped : step setting state label = some next) :
    Welcome roster next := by
  cases step_transition stepped with
  | @post pod id =>
      refine ⟨?_, fun {other code} member exited => ?_⟩
      · refine forall_attempt_update (fun _ => Welcomes roster) rfl ?_
          (fun _ found => welcome.attempts found) _ _
        intro group known _
        refine ⟨by simp, fun {groups} standing => ?_⟩
        cases standing
        exact known
      · rw [setClient_clients] at exited
        split at exited
        · cases exited
        · exact welcome.clients member exited
  | @receive pod id attempt code posting found answered =>
      refine ⟨welcome.attempts, fun {other exit} member exited => ?_⟩
      rw [setClient_clients] at exited
      split at exited
      · rename_i own
        subst own
        obtain ⟨handler, same, posted⟩ := uploading.posting posting
        cases found.symm.trans same
        obtain ⟨group, known, listed⟩ := Roster.mem_all.mp member
        rw [← posted] at listed
        refine Client.receive_exited exited fun refused => ?_
        rw [refused] at answered
        exact (welcome.attempts found group known listed).1 answered
      · exact welcome.clients member exited
  | @lose pod =>
      refine ⟨welcome.attempts, fun {other code} member exited => ?_⟩
      rw [setClient_clients] at exited
      split at exited
      · cases exited
      · exact welcome.clients member exited
  | attempt found move =>
      obtain ⟨updated, attempts, welcomes⟩ :=
        move.welcomes found stepped shown (welcome.attempts found)
      refine ⟨forall_attempt_update (fun _ => Welcomes roster) attempts welcomes
        (fun _ found => welcome.attempts found) _ _, ?_⟩
      rw [move.frame.1]
      exact welcome.clients
  | summary move =>
      obtain ⟨attempts, clients, -⟩ := move.frame
      refine ⟨?_, ?_⟩
      · rw [attempts]
        exact welcome.attempts
      · rw [clients]
        exact welcome.clients
  | get | cancel => exact ⟨welcome.attempts, welcome.clients⟩
  | crash =>
      refine ⟨fun {id attempt} found => ?_, welcome.clients⟩
      obtain ⟨before, known, rfl⟩ := Option.map_eq_some_iff.mp found
      exact (welcome.attempts known).keep rfl (.inl rfl) (by simp)

end Welcome

/-! What a handler has in hand. -/

/-- The file that a handler is about to sync is open. -/
def InHand (writer : Option LocalStore.Writer) (attempt : Attempt) : Prop :=
  ∀ {held ref}, attempt.stage = .committing → writer = some held →
    held.stage = .commitLock ref ∨ held.stage = .commitSync ref → held.isOpen = true

def Handled (state : State) : Prop :=
  ∀ id attempt, state.attempts id = some attempt → InHand (state.store.writers id) attempt

section Handled

variable {setting : Setting} {state next : State} {label : Label}

theorem step_commit_open {store after : LocalStore.State} {id : AttemptId} {ref : String}
    {writer held : LocalStore.Writer} (called : LocalStore.step store (.commit id ref) = some after)
    (found : store.writers id = some writer) (opened : after.writers id = some held) :
    held.isOpen = writer.isOpen := by
  cases LocalStore.step_transition called with
  | access actor _ => cases actor
  | writer present actor move =>
      cases actor
      cases found.symm.trans present
      cases move
      cases (LocalStore.setWriter_own ..).symm.trans opened
      rfl

/-- Of all calls inside `Commit` only the lock leads to the sync. -/
theorem work_unclosed {store after : LocalStore.State} {id : AttemptId}
    {writer held : LocalStore.Writer} {label : LocalStore.Label} {stage : Stage} {ref : String}
    (called : LocalStore.step store label = some after) (actor : label.actor = some (.writer id))
    (found : store.writers id = some writer)
    (works : workStage writer.stage stage label = some .committing)
    (opened : after.writers id = some held)
    (stands : held.stage = .commitLock ref ∨ held.stage = .commitSync ref) :
    held.isOpen = writer.isOpen ∧ stage = .committing ∧ ∃ name, writer.stage = .commitLock name := by
  cases LocalStore.step_transition called with
  | openWriter | crash => cases actor
  | access caller _ =>
      rw [actor] at caller
      cases caller
  | writer present caller move =>
      rw [actor] at caller
      cases caller
      cases found.symm.trans present
      cases move with
      | write | writeClosed | commit | close => cases stage <;> simp [workStage] at works
      | lock waits =>
          cases (LocalStore.setWriter_own ..).symm.trans opened
          refine ⟨rfl, ?_, _, waits⟩
          cases stage <;> simp [workStage] at works
          rfl
      | sync | syncFails | statAbsent | statFails | rename | renameFails | commitClose | closeFile
      | commitRemove | closeRemove | unlock =>
          cases (LocalStore.setWriter_own ..).symm.trans opened
          rcases stands with stands | stands <;> cases stands

theorem AttemptMove.inHand {id : AttemptId} {attempt : Attempt}
    (move : AttemptMove setting state id attempt label next) (serves : Serves setting state id attempt)
    (attends : Attends (state.store.writers id) attempt.stage)
    (inHand : InHand (state.store.writers id) attempt) :
    ∃ updated, next.attempts = Function.update state.attempts id (some updated) ∧
      InHand (next.store.writers id) updated := by
  cases move with
  | refuse | checkFails | openFails | copiedShort | cut | answer | accept | pass | opened
  | copied =>
      refine ⟨_, rfl, ?_⟩
      intro held ref committing
      cases committing
  | commit stands called =>
      refine ⟨_, rfl, fun {held ref} _ opened _ => ?_⟩
      rw [stands] at attends
      obtain ⟨writer, found, -⟩ := attends
      have writes := serves.writes found
      rw [stands] at writes
      rw [step_commit_open called found opened]
      exact writes.2.1
  | @work label writer stage store actor found works called =>
      refine ⟨_, rfl, fun {held ref} committing opened stands => ?_⟩
      simp only at committing
      subst committing
      obtain ⟨same, before, name, waits⟩ := work_unclosed called actor found works opened stands
      rw [same]
      exact inHand before found (.inl waits)

theorem Handled.keep (handled : Handled state) (uploading : Uploading setting state)
    (staffed : Staffed state) (transition : Transition setting state label next) :
    Handled next := by
  cases transition with
  | @post pod id =>
      refine forall_attempt_update (fun id => InHand (state.store.writers id)) rfl ?_
        fun _ found => handled _ _ found
      intro held ref committing
      cases committing
  | receive | lose | get | cancel => exact handled
  | attempt found move =>
      obtain ⟨updated, attempts, own⟩ :=
        move.inHand (uploading.serves found) (staffed.attends found) (handled _ _ found)
      refine forall_attempt_update (fun id => InHand (next.store.writers id)) attempts own
        fun {other attempt} different found => ?_
      rw [move.frame.2 different]
      exact handled other attempt found
  | summary move =>
      obtain ⟨attempts, -, writers⟩ := move.frame
      unfold Handled
      rw [attempts, writers]
      exact handled
  | crash =>
      intro id attempt found
      obtain ⟨before, known, rfl⟩ := Option.map_eq_some_iff.mp found
      intro held ref committing
      cases committing

end Handled

/-! The summary begins after the last runner. -/

def Phase.waits : Phase → Bool
  | .waiting _ => true
  | _ => false

structure Waits {setting : Setting} (roster : Roster setting) (state : State) : Prop where
  running : ∀ {running}, state.summary.phase = .waiting running → running ⊆ setting.groups
  fresh : state.summary.phase.waits = true → state.summary = { SummaryState.start setting with phase := state.summary.phase }
  finished : ∀ {running}, state.summary.phase = .waiting running → ∀ group ∈ setting.groups,
    group ∉ running → ∀ pod ∈ roster.pods group, state.clients pod = .exited 0
  begun : state.summary.phase.waits = false → ∀ pod ∈ roster.all, state.clients pod = .exited 0

section Waits

variable {setting : Setting} {roster : Roster setting} {state next : State} {label : Label}

theorem waits_start {state : State} (summary : state.summary = .start setting) :
    Waits roster state where
  running := by
    intro running standing
    rw [summary] at standing
    cases standing
    exact List.Subset.refl _
  fresh := fun _ => by rw [summary]
  finished := by
    intro running standing group known gone
    rw [summary] at standing
    cases standing
    exact absurd known gone
  begun := by
    intro begun
    rw [summary] at begun
    cases begun

/-- A runner that has exited does not come back. -/
theorem exited_kept {pod : String} {code : Nat} (stepped : step setting state label = some next)
    (exited : state.clients pod = .exited code) : next.clients pod = .exited code := by
  cases step_transition stepped with
  | post ready =>
      rw [setClient_clients, if_neg]
      · exact exited
      · intro same
        subst same
        cases exited.symm.trans ready
  | receive posting =>
      rw [setClient_clients, if_neg]
      · exact exited
      · intro same
        subst same
        cases exited.symm.trans posting
  | lose =>
      obtain ⟨id, posting⟩ := guarded_of_step stepped
      rw [setClient_clients, if_neg]
      · exact exited
      · intro same
        subst same
        cases exited.symm.trans posting
  | attempt found move =>
      rw [move.frame.1]
      exact exited
  | summary move =>
      rw [move.frame.2.1]
      exact exited
  | get | cancel | crash => exact exited

theorem Waits.congr (waits : Waits roster state) (stepped : step setting state label = some next)
    (summary : next.summary = state.summary) : Waits roster next where
  running := by
    rw [summary]
    exact waits.running
  fresh := by
    rw [summary]
    exact waits.fresh
  finished := by
    rw [summary]
    intro running standing group known gone pod member
    exact exited_kept stepped (waits.finished standing group known gone pod member)
  begun := by
    rw [summary]
    intro begun pod member
    exact exited_kept stepped (waits.begun begun pod member)

theorem Waits.keep (waits : Waits roster state) (shown : Exact roster state label)
    (stepped : step setting state label = some next) : Waits roster next := by
  cases step_transition stepped with
  | post | receive | lose | get | cancel => exact waits.congr stepped rfl
  | attempt found move => exact waits.congr stepped move.summary.1
  | crash => exact waits_start rfl
  | summary move =>
      generalize standing : state.summary.phase = phase at move
      have later (begun : phase.waits = false) (after : next.summary.phase.waits = false)
          (clients : next.clients = state.clients) : Waits roster next := by
        refine ⟨fun {running} same => ?_, fun same => ?_, fun {running} same => ?_, fun _ => ?_⟩
        · rw [same] at after
          cases after
        · rw [same] at after
          cases after
        · rw [same] at after
          cases after
        · rw [clients]
          exact waits.begun (standing ▸ begun)
      cases move with
      | @finish running group =>
          refine ⟨fun {left} same => ?_, fun _ => ?_, fun {left} same => ?_, fun begun => ?_⟩
          · cases same
            exact List.Subset.trans List.erase_subset (waits.running standing)
          · have fresh := waits.fresh (by rw [standing]; rfl)
            rw [fresh]
          · cases same
            intro other known gone pod member
            by_cases own : other = group
            · subst own
              exact shown pod member
            · refine waits.finished standing other known (fun running => gone ?_) pod member
              exact (List.mem_erase_of_ne own).mpr running
          · cases begun
      | summarize =>
          refine ⟨fun {left} same => ?_, fun same => ?_, fun {left} same => ?_, fun _ pod member => ?_⟩
          · cases same
          · cases same
          · cases same
          · obtain ⟨group, known, listed⟩ := Roster.mem_all.mp member
            exact waits.finished standing group known List.not_mem_nil pod listed
      | listFails | list | openReader | call | openFails | readAll | publish => exact later rfl rfl rfl

end Waits

section Runs

variable {setting : Setting} {roster : Roster setting} {trace : List Label} {state : State}

theorem Faithful.run (run : (system setting).RunWith (Faithful roster) trace state) :
    (system setting).RunWith Regular trace state :=
  run.mono fun _ _ faithful => faithful.1

theorem Faithful.run_fresh (run : (system setting).RunWith (Faithful roster) trace state) :
    (system setting).RunWith FreshName trace state :=
  run.mono fun _ _ faithful => faithful.1.1

theorem Faithful.run_any (run : (system setting).RunWith (Faithful roster) trace state) :
    (system setting).Run trace state :=
  run.mono fun _ _ _ => trivial

/-- What a run over a roster keeps. -/
structure Hosted (roster : Roster setting) (state : State) : Prop where
  welcome : Welcome roster state
  handled : Handled state
  waits : Waits roster state

theorem hosted_of_run (run : (system setting).RunWith (Faithful roster) trace state) :
    Hosted roster state := by
  have established {trace : List Label} {state : State}
      (run : (system setting).RunWith (Faithful roster) trace state) :
      Uploading setting state ∧ Staffed state :=
    ⟨uploading_of_run (Faithful.run_fresh run), staffed_of_run (Faithful.run_any run)⟩
  refine run.invariant_using established ?_ ?_
  · intro state initial
    rw [initial]
    refine ⟨⟨fun found => (by cases found), fun _ exited => (by cases exited)⟩, ?_,
      waits_start rfl⟩
    intro id attempt found
    cases found
  · intro state next label faithful stepped known _ hosted
    exact ⟨hosted.welcome.keep known.1 faithful.2 stepped,
      hosted.handled.keep known.1 known.2 (step_transition stepped),
      hosted.waits.keep faithful.2 stepped⟩

end Runs

end Kperf.Runner.Server
