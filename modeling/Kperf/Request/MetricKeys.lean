import Kperf.Request.Addressing
import Kperf.Request.SchedulePostDel

/-! The keys under which latencies are collected. Object names vary from request
to request; masking the last element of the path leaves one key for each builder,
and two for a postDel builder. -/

set_option autoImplicit false

namespace Kperf.Request

open Types Outcome

/-- The key of `ObserveLatency`. -/
def Requester.metricKey (requester : Requester) (client : RESTClient) : String :=
  requester.method ++ " " ++ (requester.maskedURL client).string

/-- The key of the objects whose names begin with `fixed`. -/
def maskedKey (endpoint : Endpoint) (method : String) (elements : List String)
    (fixed : String) : String :=
  let object := Path.join [endpoint.basePath, Path.join (elements ++ [fixed ++ "-"])]
  method ++ " " ++ URL.string
    ⟨endpoint.base, Path.join [Path.dir object, ":name"], endpoint.query .none⟩

def metricKeys (endpoint : Endpoint) : RESTRequestBuilder → List String
  | .get builder => [builder.build.metricKey endpoint.client]
  | .list builder => [builder.build.metricKey endpoint.client]
  | .watchList builder => [builder.build.metricKey endpoint.client]
  | .getPodLog builder => [builder.build.metricKey endpoint.client]
  | .patch builder =>
      [maskedKey endpoint "PATCH"
        (resourcePath builder.src.kube builder.src.namespace_ ++ [builder.src.kube.resource])
        builder.src.name]
  | .put builder =>
      [maskedKey endpoint "PUT"
        ["api", builder.src.kube.version, "namespaces", builder.src.namespace_,
          builder.src.kube.resource]
        builder.src.name]
  | .postDel builder =>
      [(builder.postRequester "" .none).metricKey endpoint.client,
        maskedKey endpoint "DELETE"
          (resourcePath builder.src.kube builder.src.namespace_ ++ [builder.src.kube.resource]) ""]

def keyBudget : RESTRequestBuilder → Nat
  | .postDel _ => 2
  | _ => 1

theorem length_metricKeys (endpoint : Endpoint) (builder : RESTRequestBuilder) :
    (metricKeys endpoint builder).length = keyBudget builder := by
  cases builder <;> rfl

section Keys

variable (endpoint : Endpoint)

/-- Whatever follows the fixed part of the name, with a dash and without a slash, is
masked. -/
theorem metricKey_masked {requester : Requester} {elements : List String} {fixed varying : String}
    (masked : requester.method = "DELETE" ∨ requester.method = "PATCH" ∨ requester.method = "PUT")
    (path : requester.call.path = elements ++ [fixed ++ varying])
    (options : requester.call.options = .none) (slashFree : '/' ∉ varying.toList)
    (dash : '-' ∈ varying.toList) :
    requester.metricKey endpoint.client = maskedKey endpoint requester.method elements fixed := by
  have directory := Path.dir_join_varying endpoint.basePath elements fixed slashFree dash
  simp only [Requester.metricKey, Requester.maskedURL, Endpoint.client, maskedKey, if_pos masked,
    path, options, directory]

/-- A number after the name of the request is masked, whatever the name is. -/
theorem metricKey_numbered {requester : Requester} {elements : List String} {name : String}
    {suffix : Int}
    (masked : requester.method = "DELETE" ∨ requester.method = "PATCH" ∨ requester.method = "PUT")
    (path : requester.call.path = elements ++ [name ++ "-" ++ toString suffix])
    (options : requester.call.options = .none) :
    requester.metricKey endpoint.client = maskedKey endpoint requester.method elements name := by
  have digits := Decimal.slash_notMem_toString suffix
  rw [String.append_assoc] at path
  refine metricKey_masked endpoint masked path options ?_ ?_
  · simp_all
  · simp

theorem build_metricKey {builder : RESTRequestBuilder} {drawn : Nat} {payload : String}
    {requester : Requester} (built : builder.build drawn payload = some (.ok requester)) :
    requester.metricKey endpoint.client ∈ metricKeys endpoint builder := by
  cases builder with
  | postDel builder => cases built
  | patch builder =>
      obtain ⟨suffix, -, made⟩ := bind_eq_ok.mp (Option.some.inj built)
      cases made
      exact List.mem_singleton.mpr
        (metricKey_numbered endpoint (.inr (.inl rfl)) (List.append_cons ..) rfl)
  | put builder =>
      obtain ⟨suffix, -, made⟩ := bind_eq_ok.mp (Option.some.inj built)
      cases made
      exact List.mem_singleton.mpr (metricKey_numbered endpoint (.inr (.inr rfl)) rfl rfl)
  | _ =>
      cases built
      exact List.mem_singleton_self _

theorem deleteRequester_metricKey (builder : PostDelBuilder) {name : String}
    (generated : PostDel.Generated name) :
    (builder.deleteRequester name).metricKey endpoint.client ∈
      metricKeys endpoint (.postDel builder) := by
  refine List.mem_cons_of_mem _ (List.mem_singleton.mpr ?_)
  refine metricKey_masked endpoint (.inl rfl) ?_ rfl generated.slashFree generated.dash
  simp [PostDelBuilder.deleteRequester, plainCall]

theorem postRequester_metricKey (builder : PostDelBuilder) (name : String) (body : Body) :
    (builder.postRequester name body).metricKey endpoint.client ∈
      metricKeys endpoint (.postDel builder) :=
  List.mem_cons_self

end Keys

end Kperf.Request

namespace Kperf.Request.Schedule

open Types Metrics

def Worker.requester : Worker → Option Requester
  | .receiving | .building _ | .creating _ | .exited => none
  | .waiting _ requester | .requesting _ requester | .settling _ requester _ _
  | .counting _ requester _ _ | .observing _ requester _ => some requester

def Setting.metricKeys (setting : Setting) (endpoint : Endpoint) : List String :=
  setting.requests.reqBuilders.flatMap (Request.metricKeys endpoint)

/-- Every request a worker holds and every latency recorded has a key of the setting. -/
structure Keyed (endpoint : Endpoint) (setting : Setting) (state : State) : Prop where
  held : ∀ id requester, (state.workers id).requester = some requester →
    requester.metricKey endpoint.client ∈ setting.metricKeys endpoint
  recorded : ∀ key ∈ state.metric.latenciesByURLs, key ∈ setting.metricKeys endpoint

section Steps

variable {endpoint : Endpoint} {setting : Setting} {state next : State} {id : WorkerId}

theorem keyed_start (endpoint : Endpoint) (setting : Setting) :
    Keyed endpoint setting (start setting) where
  held id requester := by
    dsimp only [start]
    split <;> nofun
  recorded key present := absurd present (AList.notMem_empty key)

theorem Keyed.update (keyed : Keyed endpoint setting state) {updated : Worker}
    (workers : next.workers = Function.update state.workers id updated)
    (known : ∀ requester, updated.requester = some requester →
      requester.metricKey endpoint.client ∈ setting.metricKeys endpoint)
    (recorded : ∀ key ∈ next.metric.latenciesByURLs, key ∈ setting.metricKeys endpoint) :
    Keyed endpoint setting next := by
  refine ⟨?_, recorded⟩
  intro other requester held
  rw [workers, Function.update_apply] at held
  split at held
  · exact known requester held
  · exact keyed.held other requester held

/-- The worker keeps its request. -/
theorem Keyed.kept (keyed : Keyed endpoint setting state) {worker updated : Worker}
    (stands : state.workers id = worker) (same : updated.requester = worker.requester) :
    ∀ requester, updated.requester = some requester →
      requester.metricKey endpoint.client ∈ setting.metricKeys endpoint :=
  fun requester held => keyed.held id requester (stands ▸ same ▸ held)

theorem Keyed.observe (keyed : Keyed endpoint setting state) {requester : Requester}
    (held : (state.workers id).requester = some requester) (library : ErrorLibrary) (now : Int)
    (seconds : ℚ) (err : Option GoError) :
    ∀ key ∈ (state.metric.observe library
      (observation endpoint.client requester now seconds err)).latenciesByURLs,
      key ∈ setting.metricKeys endpoint := by
  unfold observation
  intro key present
  cases counted : countedError err with
  | some failure =>
      rw [counted] at present
      exact keyed.recorded key present
  | none =>
      rw [counted] at present
      rcases (AList.mem_insert _).mp present with rfl | earlier
      · exact keyed.held id requester held
      · exact keyed.recorded key earlier

theorem mem_metricKeys {index : Nat} {builder : RESTRequestBuilder} {key : String}
    (found : setting.requests.reqBuilders[index]? = some builder)
    (member : key ∈ Request.metricKeys endpoint builder) : key ∈ setting.metricKeys endpoint :=
  List.mem_flatMap.mpr ⟨builder, List.mem_of_getElem? found, member⟩

/-- The request of a step that builds all of a request, its builder among those of the
setting. -/
theorem buildOther_metricKey {ticket : Ticket} {drawn : Nat} {payload : String}
    {requester : Requester} (stands : state.workers id = .building ticket)
    (plain : ∀ operation name, requester.kind ≠ .postDel operation name)
    (stepped : step setting state (.build id drawn payload) =
      some (state.setWorker id (.waiting ticket requester))) :
    requester.metricKey endpoint.client ∈ setting.metricKeys endpoint := by
  have waits : ∀ {other : State} {updated : Worker},
      some (other.setWorker id updated) = some (state.setWorker id (.waiting ticket requester)) →
        updated = .waiting ticket requester := by
    intro other updated same
    simpa using congrFun (congrArg State.workers (Option.some.inj same)) id
  have built := step_worker stepped rfl
  rw [stands] at built
  dsimp only [stepWorker] at built
  unfold build at built
  split at built
  · dsimp only at built
    split at built
    · cases waits built
      exact absurd rfl (plain _ _)
    · cases waits built
  · rename_i builder _ found
    split at built
    · rename_i made
      cases waits built
      exact mem_metricKeys found (build_metricKey endpoint made)
    · have panicked := congrFun (congrArg State.workers (Option.some.inj built)) id
      simp [State.die, stands] at panicked
    · cases built
  · cases built

theorem client_eq (shared : ∀ client ∈ setting.restCli, client = endpoint.client) (id : WorkerId) :
    setting.client id = endpoint.client :=
  shared _ (List.get_mem _ _)

theorem Keyed.keep {label : Label} (keyed : Keyed endpoint setting state)
    (shared : ∀ client ∈ setting.restCli, client = endpoint.client)
    (cached : ∀ builder name, name ∈ (state.postDel builder).cache.items → PostDel.Generated name)
    (stepped : step setting state label = some next) : Keyed endpoint setting next := by
  have unheld : ∀ {updated : Worker}, updated.requester = none → ∀ requester,
      updated.requester = some requester →
        requester.metricKey endpoint.client ∈ setting.metricKeys endpoint := by
    intro updated none requester held
    rw [none] at held
    cases held
  cases step_transition stepped with
  | callerDone | timeout => exact ⟨keyed.held, keyed.recorded⟩
  | main move =>
      generalize state.main = main at move
      cases move with
      | dispatch receives => exact keyed.update rfl (unheld rfl) keyed.recorded
      | _ => exact ⟨keyed.held, keyed.recorded⟩
  | @worker id _ _ move =>
      generalize stands : state.workers id = worker at move
      cases move with
      | @buildDelete ticket builder _ _ name rest found items =>
          refine keyed.update rfl ?_ keyed.recorded
          rintro _ ⟨⟩
          have generated := cached ticket.builder name (items ▸ List.mem_cons_self)
          exact mem_metricKeys found (deleteRequester_metricKey endpoint builder generated)
      | buildOther plain =>
          refine keyed.update rfl ?_ keyed.recorded
          rintro _ ⟨⟩
          exact buildOther_metricKey stands plain stepped
      | @create ticket builder _ _ body found =>
          refine keyed.update rfl ?_ keyed.recorded
          rintro _ ⟨⟩
          exact mem_metricKeys found (postRequester_metricKey endpoint builder _ body)
      | buildPanics | createPanics => exact ⟨keyed.held, keyed.recorded⟩
      | buildCreate | limiterFails | leave => exact keyed.update rfl (unheld rfl) keyed.recorded
      | @settle ticket requester bytes err =>
          obtain ⟨postDel, events, settled⟩ := settle_frame state ticket requester err
          rw [settled]
          exact keyed.update rfl (keyed.kept stands rfl) keyed.recorded
      | permit | respond | countBytes =>
          exact keyed.update rfl (keyed.kept stands rfl) keyed.recorded
      | @observe ticket requester err now seconds =>
          rw [client_eq shared id]
          have held : (state.workers id).requester = some requester := by
            rw [stands]
            rfl
          have observed := keyed.observe held setting.library now seconds err
          exact keyed.update rfl (unheld rfl) observed

end Steps

theorem keyed_of_run {endpoint : Endpoint} {setting : Setting} {trace : List Label} {state : State}
    (shared : ∀ client ∈ setting.restCli, client = endpoint.client)
    (run : (system setting).Run trace state) : Keyed endpoint setting state := by
  have generated : ∀ {trace : List Label} {state : State}, (system setting).Run trace state →
      ∀ builder name, name ∈ (state.postDel builder).cache.items → PostDel.Generated name := by
    intro trace state run builder name cached
    obtain ⟨actions, below⟩ := pool_run run builder
    exact PostDel.generated_of_run below name (.inl cached)
  refine run.invariant_using generated ?_ ?_
  · rintro _ rfl
    exact keyed_start endpoint setting
  · intro state next label _ stepped cached _ keyed
    exact keyed.keep shared cached stepped

theorem mem_gather (order : RangeOrder) (metric : ResponseMetric) (key : String) :
    key ∈ (metric.gather order).latenciesByURL ↔ key ∈ metric.latenciesByURLs :=
  ((StringMap.copy_perm order metric.latenciesByURLs).map Sigma.fst).mem_iff

/-- The keys of a run do not grow with its length: each belongs to a builder, and there
is one for every builder, two for a postDel builder. -/
theorem metricKeys_bounded {endpoint : Endpoint} {setting : Setting} {trace : List Label}
    {state : State} (shared : ∀ client ∈ setting.restCli, client = endpoint.client)
    (run : (system setting).Run trace state) :
    (∀ builder, (Request.metricKeys endpoint builder).length = keyBudget builder) ∧
      (∀ key ∈ (state.metric.gather setting.order).latenciesByURL,
        ∃ builder ∈ setting.requests.reqBuilders, key ∈ Request.metricKeys endpoint builder) ∧
      (state.metric.gather setting.order).latenciesByURL.keys.length ≤
        (setting.requests.reqBuilders.map keyBudget).sum := by
  have keyed := keyed_of_run shared run
  have known : ∀ key ∈ (state.metric.gather setting.order).latenciesByURL,
      key ∈ setting.metricKeys endpoint := fun key present =>
    keyed.recorded key ((mem_gather setting.order state.metric key).mp present)
  refine ⟨length_metricKeys endpoint, fun key present => List.mem_flatMap.mp (known key present), ?_⟩
  have listed : (state.metric.gather setting.order).latenciesByURL.keys ⊆
      setting.metricKeys endpoint := fun key member => known key member
  calc (state.metric.gather setting.order).latenciesByURL.keys.length
    _ ≤ (setting.metricKeys endpoint).length :=
        (List.subperm_of_subset (AList.keys_nodup _) listed).length_le
    _ = (setting.requests.reqBuilders.map keyBudget).sum := by
        simp [Setting.metricKeys, List.length_flatMap, length_metricKeys]

def localhost : Endpoint := ⟨"https://host", "/", fun _ => "timeout=1m0s"⟩

def dottedPatch : RequestPatch :=
  ⟨⟨"", "v1", "nodes"⟩, "", "a/../node", 10, "merge", "\x7b\x7d"⟩

/-- One client that patches nodes under a name with slashes and dots. -/
def dottedPatches : Setting :=
  { twoReads with
    spec := { nodeReads 1 with requests := [some (.single 1 (.patch dottedPatch))] }
    requests := ⟨[1], [.patch ⟨dottedPatch, "application/merge-patch+json", 0⟩]⟩
    accepted := by decide +kernel
    restCli := [localhost.client]
    connected := List.cons_ne_nil _ _ }

def patchAs (suffix : Nat) : List Label :=
  [.pick 0, .dispatch 0, .build 0 suffix "", .permit 0, .respond 0 2 none, .settle 0,
    .countBytes 0, .observe 0 8 1]

theorem metricKeys_bounded_dottedPatches :
    ∃ state, (system dottedPatches).Run (patchAs 3 ++ patchAs 7) state ∧
      state.recorded.length = 2 ∧
      (state.metric.gather dottedPatches.order).latenciesByURL.keys.length ≤ 1 := by
  obtain ⟨state, executed, recorded⟩ :
      ∃ state ∈ (system dottedPatches).execute (start dottedPatches) (patchAs 3 ++ patchAs 7),
        state.recorded.length = 2 := by
    decide +kernel
  have run := TransitionSystem.runWith_of_executeWith rfl executed
  have shared : ∀ client ∈ dottedPatches.restCli, client = localhost.client :=
    List.forall_mem_singleton.mpr rfl
  exact ⟨state, run, recorded, (metricKeys_bounded shared run).2.2⟩

example : Request.metricKeys localhost (.patch ⟨dottedPatch, "application/merge-patch+json", 0⟩) =
    ["PATCH https://host/api/v1/nodes/:name?timeout=1m0s"] := by decide +kernel

end Kperf.Request.Schedule
