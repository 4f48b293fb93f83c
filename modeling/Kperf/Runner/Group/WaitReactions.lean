import Kperf.Runner.Group.Wait

/-! How `Wait` reacts to an error of the API server, depending on where it is
reported: by the `Watch` call, or by an event of the session. -/

set_option autoImplicit false

namespace Kperf.Runner.Group

open Metrics

inductive Reaction where
  | backOff
  | resetRevision
  | giveUp
  deriving DecidableEq, Repr

namespace Handler

variable (handler : Handler)

/-- The branches after a failed `Watch`. -/
def watchReaction (err : GoError) : Reaction :=
  if handler.connectionRefused err || handler.library.is .tooManyRequests err ||
      handler.library.is .internalError err then .backOff
  else .giveUp

/-- The cases of the switch after `waitForJob`. -/
def sessionReaction (err : GoError) : Reaction :=
  if handler.library.is .resourceExpired err || handler.library.is .gone err then .resetRevision
  else if handler.library.is .tooManyRequests err || handler.library.is .internalError err then
    .backOff
  else if err.isSentinel .retryable then .backOff
  else .giveUp

/-- The resource version to resume from is gone. -/
def Expired (err : GoError) : Prop :=
  handler.library.is .resourceExpired err = true ∨ handler.library.is .gone err = true

/-- The server is down or busy, as either place sees it. -/
def Unavailable (err : GoError) : Prop :=
  handler.library.is .tooManyRequests err = true ∨ handler.library.is .internalError err = true

end Handler

/-- The state that a reaction leads to; `returned` is the error in case of giving up. -/
def State.react (state : State) (returned : GoError) : Reaction → State
  | .backOff => { state with phase := .looping }
  | .resetRevision => { state with phase := .looping, lastRv := "" }
  | .giveUp => { state with phase := .returned (some returned) }

section Steps

variable {handler : Handler} {state : State} {err : GoError}

theorem step_watchRefused (looping : state.phase = .looping) :
    step handler state (.watchRefused err) = some (state.react
      (err.wrap ("failed to initialize watch for job " ++ handler.name ++ ": "))
      (handler.watchReaction err)) := by
  simp only [step, looping]
  unfold Handler.refuse Handler.watchReaction
  split <;> rfl

theorem step_errorEvent (watching : state.phase = .watching) :
    step handler state (.errorEvent err) = some (state.react err (handler.sessionReaction err)) := by
  simp only [step, watching]
  unfold Handler.recover Handler.sessionReaction
  split
  · rfl
  · split
    · rfl
    · split <;> rfl

/-- A loop that has a revision to resume from shows which reaction it took. -/
theorem react_injective {first second : GoError} {reaction other : Reaction}
    (resumes : state.lastRv ≠ "") (same : state.react first reaction = state.react second other) :
    reaction = other := by
  cases reaction <;> cases other <;> simp_all [State.react]

theorem watchReaction_eq_backOff : handler.watchReaction err = .backOff ↔
    handler.connectionRefused err = true ∨ handler.Unavailable err := by
  unfold Handler.watchReaction Handler.Unavailable
  split
  · rename_i unavailable
    simpa [or_assoc] using unavailable
  · rename_i other
    simpa [or_assoc] using other

theorem watchReaction_ne_reset : handler.watchReaction err ≠ .resetRevision := by
  unfold Handler.watchReaction
  split <;> simp

theorem sessionReaction_eq_reset :
    handler.sessionReaction err = .resetRevision ↔ handler.Expired err := by
  unfold Handler.sessionReaction Handler.Expired
  split
  · rename_i expired
    simpa using expired
  · rename_i current
    split
    · simpa using current
    · split <;> simpa using current

theorem sessionReaction_eq_backOff (current : ¬handler.Expired err) :
    handler.sessionReaction err = .backOff ↔
      handler.Unavailable err ∨ err.isSentinel .retryable = true := by
  have passes : (handler.library.is .resourceExpired err || handler.library.is .gone err) = false := by
    simpa [Handler.Expired] using current
  unfold Handler.sessionReaction Handler.Unavailable
  rw [passes, if_neg Bool.false_ne_true]
  split
  · rename_i unavailable
    simp only [Bool.or_eq_true] at unavailable
    simp [unavailable]
  · rename_i available
    simp only [Bool.or_eq_true] at available
    split
    · rename_i retryable
      simp [retryable]
    · rename_i fatal
      simp [available, fatal]

end Steps

/-- The loop meets the error: as the answer to `Watch`, or as an event. -/
inductive Meets (handler : Handler) (err : GoError) (state next : State) : Prop where
  | refused (looping : state.phase = .looping)
      (stepped : step handler state (.watchRefused err) = some next)
  | reported (watching : state.phase = .watching)
      (stepped : step handler state (.errorEvent err) = some next)

/-- An error causes one reaction in both places, and an expired revision ends no wait. -/
structure TreatedAlike (handler : Handler) (err : GoError) : Prop where
  reaction : ∃ reaction, ∀ state next, Meets handler err state next →
    ∃ returned, next = state.react returned reaction
  survives : handler.Expired err → ∀ state next, Meets handler err state next →
    ∀ result, next.phase ≠ .returned result

theorem one_reaction_iff {handler : Handler} {err : GoError} :
    (∃ reaction, ∀ state next, Meets handler err state next →
      ∃ returned, next = state.react returned reaction) ↔
      handler.watchReaction err = handler.sessionReaction err := by
  constructor
  · rintro ⟨reaction, reacts⟩
    obtain ⟨_, refused⟩ := reacts ⟨.looping, "1", []⟩ _ (.refused rfl (step_watchRefused rfl))
    obtain ⟨_, reported⟩ := reacts ⟨.watching, "1", []⟩ _ (.reported rfl (step_errorEvent rfl))
    rw [react_injective (by decide) refused, react_injective (by decide) reported]
  · intro same
    refine ⟨handler.watchReaction err, ?_⟩
    intro state next met
    cases met with
    | refused looping stepped =>
        rw [step_watchRefused looping] at stepped
        exact ⟨_, (Option.some.inj stepped).symm⟩
    | reported watching stepped =>
        rw [step_errorEvent watching, ← same] at stepped
        exact ⟨_, (Option.some.inj stepped).symm⟩

/-- Both places treat an error alike exactly if it is not an expired revision and
what makes the one try again makes the other try again. -/
theorem treatedAlike_iff (handler : Handler) (err : GoError) :
    TreatedAlike handler err ↔ ¬handler.Expired err ∧
      ((handler.connectionRefused err = true ∨ handler.Unavailable err) ↔
        (handler.Unavailable err ∨ err.isSentinel .retryable = true)) := by
  constructor
  · intro alike
    have same := one_reaction_iff.mp alike.reaction
    have current : ¬handler.Expired err := by
      intro expired
      refine watchReaction_ne_reset (same.trans ?_)
      exact sessionReaction_eq_reset.mpr expired
    rw [← watchReaction_eq_backOff, ← sessionReaction_eq_backOff current, same]
    exact ⟨current, Iff.rfl⟩
  · rintro ⟨current, retries⟩
    refine ⟨one_reaction_iff.mpr ?_, fun expired => absurd expired current⟩
    rw [← watchReaction_eq_backOff, ← sessionReaction_eq_backOff current] at retries
    have keeps := mt sessionReaction_eq_reset.mp current
    cases watched : handler.watchReaction err with
    | backOff => exact (retries.mp watched).symm
    | resetRevision => exact absurd watched watchReaction_ne_reset
    | giveUp =>
        cases met : handler.sessionReaction err with
        | backOff => exact absurd (retries.mpr met) (by simp [watched])
        | resetRevision => exact absurd met keeps
        | giveUp => rfl

/-- A server that answers only that the revision is too old. -/
def expiringHandler : Handler where
  name := "runners"
  namespace_ := "kperf"
  library := ⟨fun predicate _ => predicate == .resourceExpired, fun _ => ""⟩
  connectionRefused _ := false

def tooOld : GoError := .leaf ⟨.apiStatus 410, "too old resource version"⟩

/-- The event is survived with a reset; from `Watch` the same error ends the wait. -/
theorem tooOld_not_treatedAlike :
    step expiringHandler ⟨.watching, "7", []⟩ (.errorEvent tooOld) = some ⟨.looping, "", []⟩ ∧
      step expiringHandler ⟨.looping, "7", []⟩ (.watchRefused tooOld) =
        some ⟨.returned (some (tooOld.wrap "failed to initialize watch for job runners: ")), "7", []⟩ ∧
      ¬TreatedAlike expiringHandler tooOld := by
  refine ⟨rfl, rfl, fun alike => ?_⟩
  have met : Meets expiringHandler tooOld ⟨.looping, "7", []⟩ _ := .refused rfl rfl
  exact alike.survives (.inl rfl) _ _ met _ rfl

end Kperf.Runner.Group
