import Kperf.Library.Ledger
import Kperf.Request.ScheduleTransition

/-! Accounting of requests. Dispatched builders are the items of a ledger: a
worker holds one while it works on it and settles it by an observation or by
dropping it. -/

set_option autoImplicit false

namespace Kperf.Request.Schedule

open Types Metrics

/-- Dispatched builders, who holds them, and those that were counted or dropped. -/
def State.ledger (state : State) : Ledger WorkerId where
  issued := state.dispatched
  held := fun id => (state.workers id).ticket.map Ticket.id
  settled := state.recorded.map Prod.fst ++ state.dropped.map Prod.fst

theorem State.ledger_update {state next : State} {id : WorkerId} {updated : Worker}
    (workers : next.workers = Function.update state.workers id updated) :
    next.ledger =
      ⟨next.dispatched, Function.update state.ledger.held id (updated.ticket.map Ticket.id),
        next.recorded.map Prod.fst ++ next.dropped.map Prod.fst⟩ := by
  rw [ledger, workers]
  congr 1
  funext other
  exact Function.apply_update (fun _ (worker : Worker) => worker.ticket.map Ticket.id) ..

structure Accounted (setting : Setting) (state : State) : Prop where
  ledger : state.ledger.Balanced
  metric : state.metric.Agrees (replay setting.library (state.recorded.map Prod.snd))
  dropper : ∀ {entry}, entry ∈ state.dropped → state.workers entry.2 = .exited
  dropOnce : (state.dropped.map Prod.snd).Nodup
  absent : ∀ {id}, setting.clients ≤ id → state.workers id = .exited

theorem accounted_start (setting : Setting) : Accounted setting (start setting) where
  ledger := by
    refine Ledger.balanced_empty fun id => ?_
    dsimp only [start]
    split <;> rfl
  metric := ⟨rfl, rfl⟩
  dropper := by simp [start]
  dropOnce := by simp [start]
  absent := by
    intro id beyond
    simp [start, Nat.not_lt.mpr beyond]

theorem WorkerMove.not_exited {setting : Setting} {state next : State} {id : WorkerId}
    {label : Label} (move : WorkerMove setting state id (state.workers id) label next) :
    state.workers id ≠ .exited := by
  intro exited
  rw [exited] at move
  cases move

theorem Accounted.keep_worker {setting : Setting} {state next : State} {id : WorkerId}
    {label : Label} (accounted : Accounted setting state)
    (move : WorkerMove setting state id (state.workers id) label next) :
    Accounted setting next := by
  obtain ⟨updated, frame, effect⟩ := move.frame rfl
  have active := move.not_exited
  have ledger := State.ledger_update frame.workers
  have others : ∀ {other}, state.workers other = .exited → next.workers other = .exited := by
    intro other exited
    rw [frame.workers, Function.update_of_ne]
    · exact exited
    · rintro rfl
      exact active exited
  have absent : ∀ {other}, setting.clients ≤ other → next.workers other = .exited :=
    fun beyond => others (accounted.absent beyond)
  cases effect with
  | keeps ticket _ recorded dropped _ errors latencies =>
      refine ⟨?_, ?_, ?_, ?_, absent⟩
      · have kept : Function.update state.ledger.held id (updated.ticket.map Ticket.id) =
            state.ledger.held := by
          rw [ticket]
          exact Function.update_eq_self id state.ledger.held
        rw [ledger, kept, recorded, dropped, frame.dispatched]
        exact accounted.ledger
      · rw [recorded]
        exact ⟨errors.trans accounted.metric.errors, latencies.trans accounted.metric.latencies⟩
      · rw [dropped]
        exact fun member => others (accounted.dropper member)
      · rw [dropped]
        exact accounted.dropOnce
  | @records ticket observed holds received recorded dropped _ metric =>
      refine ⟨?_, ?_, ?_, ?_, absent⟩
      · have mine : state.ledger.held id = some ticket.id := by simp [State.ledger, holds]
        rw [ledger, received, recorded, dropped, frame.dispatched]
        exact accounted.ledger.settle mine (by simp [State.ledger])
      · rw [recorded, metric, List.map_append, List.map_singleton, replay_append]
        exact accounted.metric.observe _ _
      · rw [dropped]
        exact fun member => others (accounted.dropper member)
      · rw [dropped]
        exact accounted.dropOnce
  | @drops ticket _ holds left dropped recorded metric =>
      have fresh : id ∉ state.dropped.map Prod.snd := by
        intro member
        obtain ⟨entry, earlier, rfl⟩ := List.mem_map.mp member
        exact active (accounted.dropper earlier)
      refine ⟨?_, ?_, ?_, ?_, absent⟩
      · have mine : state.ledger.held id = some ticket.id := by simp [State.ledger, holds]
        rw [ledger, left, recorded, dropped, frame.dispatched, List.map_append,
          List.map_singleton, ← List.append_assoc]
        exact accounted.ledger.settle mine (List.perm_append_singleton _ _)
      · rw [recorded, metric]
        exact accounted.metric
      · intro entry member
        rw [dropped, List.mem_append, List.mem_singleton] at member
        rcases member with earlier | rfl
        · exact others (accounted.dropper earlier)
        · simp [frame.workers, left]
      · rw [dropped, List.map_append, List.map_singleton, List.nodup_append_comm]
        exact List.nodup_cons.mpr ⟨fresh, accounted.dropOnce⟩

theorem Accounted.keep_main {setting : Setting} {state next : State} {label : Label}
    (accounted : Accounted setting state)
    (move : MainMove setting state state.main label next) : Accounted setting next := by
  generalize stands : state.main = main at move
  cases move with
  | @dispatch sum builder worker receives =>
      have free : state.ledger.held worker = none := by
        simp [State.ledger, receives, Worker.ticket]
      have below : worker < setting.clients := by
        by_contra beyond
        rw [accounted.absent (Nat.le_of_not_lt beyond)] at receives
        cases receives
      refine ⟨?_, accounted.metric, ?_, accounted.dropOnce, ?_⟩
      · rw [State.ledger_update rfl]
        exact accounted.ledger.issue free
      · intro entry member
        have exited := accounted.dropper member
        simp only [State.setWorker_workers]
        rw [Function.update_of_ne]
        · exact exited
        · rintro rfl
          rw [receives] at exited
          cases exited
      · intro other beyond
        simp only [State.setWorker_workers]
        rw [Function.update_of_ne]
        · exact accounted.absent beyond
        · rintro rfl
          exact absurd below (Nat.not_lt.mpr beyond)
  | _ => exact ⟨accounted.ledger, accounted.metric, accounted.dropper, accounted.dropOnce,
      accounted.absent⟩

theorem accounted_of_run {setting : Setting} {allowed : State → Label → Prop}
    {trace : List Label} {state : State}
    (run : (system setting).RunWith allowed trace state) : Accounted setting state := by
  refine run.invariant (fun _ initial => initial ▸ accounted_start setting) ?_
  intro state next label _ stepped accounted
  cases step_transition stepped with
  | worker move => exact accounted.keep_worker move
  | main move => exact accounted.keep_main move
  | callerDone | timeout =>
      exact ⟨accounted.ledger, accounted.metric, accounted.dropper, accounted.dropOnce,
        accounted.absent⟩

structure Paced (setting : Setting) (state : State) : Prop where
  picking : ∀ {sum}, state.main = .picking sum → sum = state.dispatched
  sending : ∀ {sum builder}, state.main = .sending sum builder →
    sum = state.dispatched ∧ ¬ reached setting.spec.total sum
  bounded : 0 < setting.spec.total → state.dispatched ≤ setting.spec.total
  returned : ∀ {result}, state.main = .returned result →
    (∀ id, state.workers id = .exited) ∧
      result.stats = state.metric.gather setting.order ∧ result.total = setting.spec.total

theorem paced_start (setting : Setting) : Paced setting (start setting) where
  picking := by
    rintro sum ⟨⟩
    rfl
  sending := nofun
  bounded := fun positive => Int.le_of_lt positive
  returned := nofun

theorem Paced.keep_worker {setting : Setting} {state next : State} {id : WorkerId}
    {label : Label} (paced : Paced setting state)
    (move : WorkerMove setting state id (state.workers id) label next) :
    Paced setting next := by
  obtain ⟨updated, frame, -⟩ := move.frame rfl
  constructor
  · rw [frame.main, frame.dispatched]
    exact paced.picking
  · rw [frame.main, frame.dispatched]
    exact paced.sending
  · rw [frame.dispatched]
    exact paced.bounded
  · intro result returned
    rw [frame.main] at returned
    exact absurd ((paced.returned returned).1 id) move.not_exited

theorem Paced.keep_main {setting : Setting} {state next : State} {label : Label}
    (paced : Paced setting state) (accounted : Accounted setting state)
    (move : MainMove setting state state.main label next) : Paced setting next := by
  generalize stands : state.main = main at move
  cases move with
  | complete | abandon | cancelGenerator | closeChannel =>
      exact ⟨nofun, nofun, paced.bounded, nofun⟩
  | pickPanics => exact ⟨paced.picking, paced.sending, paced.bounded, paced.returned⟩
  | pick unbound =>
      refine ⟨nofun, ?_, paced.bounded, nofun⟩
      rintro sum builder ⟨⟩
      exact ⟨paced.picking stands, unbound⟩
  | dispatch =>
      obtain ⟨rfl, unbound⟩ := paced.sending stands
      refine ⟨?_, nofun, ?_, nofun⟩
      · rintro sum ⟨⟩
        rfl
      · intro positive
        have below : ¬ setting.spec.total ≤ state.dispatched := fun bound =>
          unbound ⟨positive, bound⟩
        simp only [State.setWorker_dispatched]
        omega
  | finish exited =>
      refine ⟨nofun, nofun, paced.bounded, ?_⟩
      rintro result ⟨⟩
      refine ⟨fun id => ?_, rfl, rfl⟩
      by_cases below : id < setting.clients
      · exact exited id below
      · exact accounted.absent (Nat.le_of_not_lt below)

theorem paced_of_run {setting : Setting} {allowed : State → Label → Prop}
    {trace : List Label} {state : State}
    (run : (system setting).RunWith allowed trace state) : Paced setting state := by
  refine run.invariant_using accounted_of_run
    (fun _ initial => initial ▸ paced_start setting) ?_
  intro state next label _ stepped accounted _ paced
  cases step_transition stepped with
  | worker move => exact paced.keep_worker move
  | main move => exact paced.keep_main accounted move
  | callerDone | timeout => exact ⟨paced.picking, paced.sending, paced.bounded, paced.returned⟩

/-- A call limited by `Total` alone, under a context that never ends. -/
def Setting.Unhurried (setting : Setting) : Prop :=
  0 < setting.spec.total ∧ setting.spec.duration ≤ 0 ∧ setting.callerDeadline = false

structure Undisturbed (setting : Setting) (state : State) : Prop where
  running : state.ctxDone = false
  kept : state.dropped = []
  generating : ∀ {sum builder}, state.main = .sending sum builder → state.stopped = false
  looping : ∀ {sum}, state.main = .picking sum → state.stopped = false
  completed : (∀ sum, state.main ≠ .picking sum) → (∀ sum builder,
    state.main ≠ .sending sum builder) → setting.spec.total ≤ state.dispatched

theorem Undisturbed.keep_worker {setting : Setting} {state next : State} {id : WorkerId}
    {label : Label} (unhurried : setting.Unhurried) (undisturbed : Undisturbed setting state)
    (move : WorkerMove setting state id (state.workers id) label next) :
    Undisturbed setting next := by
  obtain ⟨updated, frame, effect⟩ := move.frame rfl
  have common : next.cancelled = state.cancelled → next.dropped = state.dropped →
      Undisturbed setting next := by
    intro cancelled dropped
    constructor
    · simp only [State.ctxDone, cancelled, frame.callerDone, frame.timedOut]
      exact undisturbed.running
    · rw [dropped]
      exact undisturbed.kept
    · rw [frame.main, frame.stopped]
      exact undisturbed.generating
    · rw [frame.main, frame.stopped]
      exact undisturbed.looping
    · rw [frame.main, frame.dispatched]
      exact undisturbed.completed
  cases effect with
  | keeps _ _ _ dropped cancelled => exact common cancelled dropped
  | records _ _ _ dropped cancelled => exact common cancelled dropped
  | drops fails =>
      have patient : setting.hasDeadline = false := by
        simp [Setting.hasDeadline, unhurried.2.1, unhurried.2.2]
      rw [undisturbed.running, patient] at fails
      cases fails

theorem Undisturbed.keep_main {setting : Setting} {state next : State} {label : Label}
    (undisturbed : Undisturbed setting state) (paced : Paced setting state)
    (move : MainMove setting state state.main label next) : Undisturbed setting next := by
  generalize stands : state.main = main at move
  cases move with
  | complete bound =>
      refine ⟨undisturbed.running, undisturbed.kept, nofun, nofun, fun _ _ => ?_⟩
      have pace := paced.picking stands
      exact pace ▸ bound.2
  | pick =>
      refine ⟨undisturbed.running, undisturbed.kept, ?_, nofun, fun _ sends => ?_⟩
      · intro sum builder _
        exact undisturbed.looping stands
      · exact absurd rfl (sends _ _)
  | pickPanics =>
      exact ⟨undisturbed.running, undisturbed.kept, undisturbed.generating, undisturbed.looping,
        undisturbed.completed⟩
  | dispatch =>
      refine ⟨undisturbed.running, undisturbed.kept, nofun, ?_, fun picks _ => ?_⟩
      · intro sum _
        exact undisturbed.generating stands
      · exact absurd rfl (picks _)
  | abandon done =>
      rw [undisturbed.running, undisturbed.generating stands] at done
      cases done
  | cancelGenerator | closeChannel | finish =>
      refine ⟨undisturbed.running, undisturbed.kept, nofun, nofun, fun _ _ => ?_⟩
      exact undisturbed.completed (by simp [stands]) (by simp [stands])

theorem undisturbed_of_run {setting : Setting} {trace : List Label} {state : State}
    (unhurried : setting.Unhurried)
    (run : (system setting).RunWith (fun _ label => label ≠ .callerDone) trace state) :
    Undisturbed setting state := by
  refine run.invariant_using paced_of_run ?_ ?_
  · rintro _ rfl
    exact ⟨rfl, rfl, nofun, fun _ => rfl, fun picks _ => absurd rfl (picks 0)⟩
  · intro state next label uncancelled stepped paced _ undisturbed
    cases step_transition stepped with
    | worker move => exact undisturbed.keep_worker unhurried move
    | main move => exact undisturbed.keep_main paced move
    | callerDone => exact absurd rfl uncancelled
    | timeout limited => exact absurd limited (Int.not_lt.mpr unhurried.2.1)

/-- The books of a call of `Schedule` that returned. -/
structure Accounting (setting : Setting) (trace : List Label) (state : State)
    (result : Result) : Prop where
  balance : result.stats.latenciesByURL.values.length + result.stats.errors.length +
    state.dropped.length = state.dispatched
  dropsOnce : ∀ worker, (state.dropped.map Prod.snd).count worker ≤ 1
  bounded : 0 < setting.spec.total → state.dispatched ≤ setting.spec.total
  complete : setting.Unhurried → .callerDone ∉ trace →
    (result.stats.latenciesByURL.values.length + result.stats.errors.length : Nat) =
      setting.spec.total ∧
    (state.recorded.map Prod.fst).Perm (List.range setting.spec.total.toNat) ∧
    result.stats.errors = (replay setting.library (state.recorded.map Prod.snd)).errors ∧
    result.stats.latenciesByURL.entries.Perm
      (replay setting.library (state.recorded.map Prod.snd)).latenciesByURLs.entries

theorem Accounted.gathered {setting : Setting} {state : State}
    (accounted : Accounted setting state) :
    (state.metric.gather setting.order).latenciesByURL.values.length +
      (state.metric.gather setting.order).errors.length = state.recorded.length := by
  rw [(gather_latencies setting.order state.metric).length_eq, accounted.metric.latencies]
  have errors : (state.metric.gather setting.order).errors =
      (replay setting.library (state.recorded.map Prod.snd)).errors := accounted.metric.errors
  rw [errors, replay_count, List.length_map]

/-- Once every worker has left, each dispatched builder was counted or dropped. -/
theorem Accounted.settled {setting : Setting} {state : State}
    (accounted : Accounted setting state) (exited : ∀ id, state.workers id = .exited) :
    state.ledger.settled.Perm (List.range state.dispatched) ∧
      state.recorded.length + state.dropped.length = state.dispatched := by
  have settled : state.ledger.settled.Perm (List.range state.dispatched) :=
    accounted.ledger.perm_range fun id => by simp [State.ledger, exited id, Worker.ticket]
  exact ⟨settled, by simpa [State.ledger] using settled.length_eq⟩

/-- For every accepted spec and every interleaving, the books of `Schedule` balance
when it returns. -/
theorem schedule_accounting {setting : Setting} {trace : List Label} {state : State}
    {result : Result} (run : (system setting).Run trace state)
    (final : state.main = .returned result) : Accounting setting trace state result := by
  have accounted := accounted_of_run run
  have paced := paced_of_run run
  obtain ⟨exited, stats, -⟩ := paced.returned final
  obtain ⟨settled, balance⟩ := accounted.settled exited
  have gathered := accounted.gathered
  rw [← stats] at gathered
  refine ⟨by omega, ?_, paced.bounded, ?_⟩
  · exact List.nodup_iff_count_le_one.mp accounted.dropOnce
  · intro unhurried uncancelled
    have calm : ∀ label ∈ trace, label ≠ .callerDone := fun label member =>
      ne_of_mem_of_not_mem member uncancelled
    have undisturbed := undisturbed_of_run unhurried
      ((run.restrict calm).mono fun _ _ allowed => allowed.2)
    have kept := undisturbed.kept
    have all : setting.spec.total = state.dispatched :=
      Int.le_antisymm (undisturbed.completed (by simp [final]) (by simp [final]))
        (paced.bounded unhurried.1)
    rw [kept, List.length_nil] at balance
    refine ⟨by omega, ?_, ?_, ?_⟩
    · rw [all, Int.toNat_natCast]
      simpa [State.ledger, kept] using settled
    · rw [stats]
      exact accounted.metric.errors
    · rw [stats, ← accounted.metric.latencies]
      exact StringMap.copy_perm _ _

def Main.result : Main → Option Result
  | .returned result => some result
  | _ => none

theorem Main.result_eq_some {main : Main} {result : Result} :
    main.result = some result ↔ main = .returned result := by
  cases main <;> simp [Main.result]

/-- Two stale reads of one node by two workers. -/
def twoReads : Setting where
  spec :=
    { rate := 0, total := 2, duration := 0, conns := 1, client := 2, contentType := .json
      disableHTTP2 := false, maxRetries := 0
      requests := [some
        { shares := 1, staleList := none, quorumList := none, watchList := none
          staleGet := some ⟨⟨"", "v1", "nodes"⟩, "", "node"⟩, quorumGet := none, put := none
          patch := none, getPodLog := none, postDel := none }] }
  requests := ⟨[1], [.get ⟨⟨⟨"", "v1", "nodes"⟩, "", "node"⟩, "0", 0⟩]⟩
  accepted := rfl
  restCli := [⟨fun call => ⟨"https://host", Path.join ("/" :: call.path), "timeout=1m0s"⟩⟩]
  connected := List.cons_ne_nil _ _
  callerDeadline := false
  library := ⟨fun _ _ => false, fun _ => "NO_ERROR"⟩
  order := .stored

def twoReadsTrace : List Label :=
  [.pick 0, .dispatch 1, .pick 5, .build 1 0 "", .dispatch 0, .complete, .permit 1,
    .build 0 0 "", .cancelGenerator, .respond 1 40 none, .permit 0, .settle 1,
    .respond 0 0 (some (.leaf ⟨.errno econnreset, "connection reset by peer"⟩)),
    .closeChannel, .settle 0, .countBytes 0, .countBytes 1, .observe 0 20 3,
    .observe 1 21 2, .leave 1, .leave 0, .finish 22]

theorem schedule_accounting_twoReads :
    ∃ state result, (system twoReads).Run twoReadsTrace state ∧
      state.main = .returned result ∧ result.stats.errors.length = 1 ∧
      result.stats.latenciesByURL.values = [2] ∧ twoReads.Unhurried ∧
      Accounting twoReads twoReadsTrace state result := by
  obtain ⟨state, executed, result, final, failed, observed⟩ :
      ∃ state ∈ (system twoReads).execute (start twoReads) twoReadsTrace,
        ∃ result ∈ state.main.result, result.stats.errors.length = 1 ∧
          result.stats.latenciesByURL.values = [2] := by
    decide
  have run := TransitionSystem.runWith_of_executeWith rfl executed
  have returned := Main.result_eq_some.mp final
  exact ⟨state, result, run, returned, failed, observed, ⟨by decide, by decide, rfl⟩,
    schedule_accounting run returned⟩

end Kperf.Request.Schedule
