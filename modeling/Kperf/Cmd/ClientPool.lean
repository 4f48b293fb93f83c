import Kperf.Cmd.LoadConfig
import Kperf.Request.Client
import Mathlib.Algebra.BigOperators.Ring.Finset
import Mathlib.Algebra.Order.Field.Rat

/-! The clients that all specs of a profile share. Their number and their rate
limit come from the first spec; a later spec brings its own rate and its own
number of workers, dealt out over the clients in turn. client-go gives every
client a limiter of its own. -/

set_option autoImplicit false

namespace Kperf.Cmd.Runner

open Types Outcome Request

section Model

/-- The action of `runner run` up to the clients. -/
def actionClients (library : ClientGo) (flags : Flags) (kubeCfgPath userAgent cfgPath : String)
    (file : Except String (Except String LoadProfile)) :
    Outcome (LoadProfile × List RestConfig) := do
  let profileCfg ← loadConfig flags cfgPath file
  if 1 < profileCfg.specs.length ∧ hasCliOverrides flags then
    fail "CLI flag overrides are not allowed when config has multiple specs"
  else
    match profileCfg.specs with
    | [] => panics "runtime error: index out of range [0] with length 0"
    | firstSpec :: _ => do
        let restClis ← newClients library kubeCfgPath firstSpec.conns
          [withClientUserAgentOpt userAgent, withClientQPSOpt firstSpec.rate,
            withClientContentTypeOpt firstSpec.contentType,
            withClientDisableHTTP2Opt firstSpec.disableHTTP2]
        .ok (profileCfg, restClis)

/-- The workers that `Schedule` starts for a spec. -/
def workers (spec : LoadProfileSpec) : Nat :=
  (if spec.client = 0 then spec.conns else spec.client).toNat

/-- The positions of the clients that get a worker. -/
def usedClients (spec : LoadProfileSpec) (clients : Nat) : Finset Nat :=
  (Finset.range (workers spec)).image (· % clients)

/-- The rate that the limiters of these clients permit together. -/
def permittedRate (restClis : List RestConfig) (spec : LoadProfileSpec) : ℚ :=
  ∑ position ∈ usedClients spec restClis.length, (restClis[position]?.map RestConfig.qps).getD 0

/-- The clients let a spec run at its own rate, and do not limit one without a limit. -/
def NeverThrottled (restClis : List RestConfig) (spec : LoadProfileSpec) : Prop :=
  spec.rate ≤ permittedRate restClis spec ∧
    (spec.rate = 0 → ∀ client ∈ restClis, client.qps = maxInt32)

end Model

theorem usedClients_eq {spec : LoadProfileSpec} {clients : Nat} (positive : 0 < clients) :
    usedClients spec clients = Finset.range (min (workers spec) clients) := by
  ext position
  simp only [usedClients, Finset.mem_image, Finset.mem_range, Nat.lt_min]
  constructor
  · rintro ⟨worker, below, rfl⟩
    exact ⟨(Nat.mod_le worker clients).trans_lt below, Nat.mod_lt worker positive⟩
  · intro below
    exact ⟨position, below.1, Nat.mod_eq_of_lt below.2⟩

theorem permittedRate_eq {restClis : List RestConfig} {spec : LoadProfileSpec} {qps : ℚ}
    (connected : restClis ≠ []) (limited : ∀ client ∈ restClis, client.qps = qps) :
    permittedRate restClis spec = (min (workers spec) restClis.length : Nat) * qps := by
  rw [permittedRate, usedClients_eq (List.length_pos_of_ne_nil connected)]
  have each : ∀ position ∈ Finset.range (min (workers spec) restClis.length),
      (restClis[position]?.map RestConfig.qps).getD 0 = qps := by
    intro position member
    have inside := (Nat.lt_min.mp (Finset.mem_range.mp member)).2
    rw [List.getElem?_eq_getElem inside]
    exact limited _ (List.getElem_mem inside)
  rw [Finset.sum_congr rfl each, Finset.sum_const, Finset.card_range, nsmul_eq_mul]

/-- The limit of every client, from the rate of the first spec. -/
def clientLimit (first : LoadProfileSpec) : ℚ := if 0 < first.rate then first.rate else maxInt32

/-- What the action hands on: a valid profile, and clients as its first spec asks. -/
structure Pool (profile : LoadProfile) (restClis : List RestConfig) (first : LoadProfileSpec)
    (rest : List LoadProfileSpec) : Prop where
  specs : profile.specs = first :: rest
  valid : ∀ spec ∈ first :: rest, spec.FieldsValid
  size : (restClis.length : Int) = first.conns
  limited : ∀ client ∈ restClis, client.qps = clientLimit first

theorem actionClients_ok {library : ClientGo} {flags : Flags}
    {kubeCfgPath userAgent cfgPath : String} {file : Except String (Except String LoadProfile)}
    {profile : LoadProfile} {restClis : List RestConfig}
    (ran : actionClients library flags kubeCfgPath userAgent cfgPath file = .ok (profile, restClis)) :
    ∃ first rest, Pool profile restClis first rest := by
  obtain ⟨profileCfg, loaded, ran⟩ := bind_eq_ok.mp ran
  obtain ⟨-, ran⟩ := guard_eq_ok.mp ran
  split at ran
  · cases ran
  · rename_i first rest specs
    obtain ⟨clients, made, same⟩ := bind_eq_ok.mp ran
    cases same
    obtain ⟨-, -, checked, pairs, -⟩ := LoadProfile.validate_eq_ok.mp (loadConfig_accepted loaded)
    have valid : ∀ spec ∈ first :: rest, spec.FieldsValid := by
      intro spec member
      rw [← specs] at member
      obtain ⟨result, accepted⟩ := exists_forall₂.mp ⟨checked, pairs⟩ spec member
      exact (LoadProfileSpec.validate_eq_ok.mp accepted).1
    obtain ⟨lengths, limited⟩ := newClients_ok made
    have conns := (valid first List.mem_cons_self).conns
    refine ⟨first, rest, specs, valid, by omega, ?_⟩
    intro client member
    rw [limited client member, clientLimit]
    by_cases positive : 0 < first.rate
    · simp [withClientUserAgentOpt, withClientQPSOpt, withClientContentTypeOpt,
        withClientDisableHTTP2Opt, positive]
    · simp [withClientUserAgentOpt, withClientQPSOpt, withClientContentTypeOpt,
        withClientDisableHTTP2Opt, positive, defaultClientCfg]

namespace Pool

variable {profile : LoadProfile} {restClis : List RestConfig} {first spec : LoadProfileSpec}
variable {rest : List LoadProfileSpec}

theorem connected (pool : Pool profile restClis first rest) : restClis ≠ [] := by
  have conns := (pool.valid first List.mem_cons_self).conns
  have size := pool.size
  rintro rfl
  rw [List.length_nil] at size
  omega

theorem permittedRate_eq (pool : Pool profile restClis first rest) (member : spec ∈ first :: rest) :
    permittedRate restClis spec = (min spec.client first.conns : Int) * clientLimit first := by
  have client := (pool.valid spec member).client
  have size := pool.size
  have count : ((min (workers spec) restClis.length : Nat) : Int) = min spec.client first.conns := by
    rw [workers, if_neg (by omega)]
    omega
  rw [Runner.permittedRate_eq pool.connected pool.limited, ← count, Int.cast_natCast]

theorem unlimited_iff (pool : Pool profile restClis first rest) :
    (∀ client ∈ restClis, client.qps = maxInt32) ↔ first.rate = 0 ∨ first.rate = maxInt32 := by
  have limits : (∀ client ∈ restClis, client.qps = maxInt32) ↔ clientLimit first = maxInt32 := by
    constructor
    · intro unlimited
      obtain ⟨client, member⟩ := List.exists_mem_of_ne_nil restClis pool.connected
      rw [← pool.limited client member, unlimited client member]
    · intro same client member
      rw [pool.limited client member, same]
  have signed := (pool.valid first List.mem_cons_self).rate
  rw [limits, clientLimit]
  split_ifs with positive
  · simp [positive.ne']
  · simp [le_antisymm (not_lt.mp positive) signed]

/-- The first spec always gets its rate: it uses at least one client. -/
theorem first_neverThrottled (pool : Pool profile restClis first rest) :
    NeverThrottled restClis first := by
  have valid := pool.valid first List.mem_cons_self
  refine ⟨?_, fun zero => pool.unlimited_iff.mpr (.inl zero)⟩
  have one : (1 : ℚ) ≤ (min first.client first.conns : Int) := by
    exact_mod_cast le_min valid.client valid.conns
  rw [pool.permittedRate_eq List.mem_cons_self, clientLimit]
  split_ifs with positive
  · exact le_mul_of_one_le_left positive.le one
  · rw [le_antisymm (not_lt.mp positive) valid.rate]
    exact mul_nonneg (zero_le_one.trans one) (by decide +kernel)

end Pool

/-- The shared clients serve every spec at its own rate exactly if each later spec
stays below what the limit of the first spec leaves its workers, and asks for no
limit only where the clients have none. -/
theorem pool_neverThrottled_iff {library : ClientGo} {flags : Flags}
    {kubeCfgPath userAgent cfgPath : String} {file : Except String (Except String LoadProfile)}
    {profile : LoadProfile} {restClis : List RestConfig}
    (ran : actionClients library flags kubeCfgPath userAgent cfgPath file = .ok (profile, restClis)) :
    (∀ spec ∈ profile.specs, NeverThrottled restClis spec) ↔
      ∃ first rest, profile.specs = first :: rest ∧ ∀ spec ∈ rest,
        spec.rate ≤ (min spec.client first.conns : Int) *
          (if 0 < first.rate then first.rate else maxInt32) ∧
        (spec.rate = 0 → first.rate = 0 ∨ first.rate = maxInt32) := by
  obtain ⟨first, rest, pool⟩ := actionClients_ok ran
  have later : ∀ spec ∈ rest, NeverThrottled restClis spec ↔
      spec.rate ≤ (min spec.client first.conns : Int) *
          (if 0 < first.rate then first.rate else maxInt32) ∧
        (spec.rate = 0 → first.rate = 0 ∨ first.rate = maxInt32) := by
    intro spec member
    rw [NeverThrottled, pool.permittedRate_eq (List.mem_cons_of_mem _ member), pool.unlimited_iff,
      clientLimit]
  constructor
  · intro served
    refine ⟨first, rest, pool.specs, ?_⟩
    intro spec member
    refine (later spec member).mp (served spec ?_)
    rw [pool.specs]
    exact List.mem_cons_of_mem _ member
  · rintro ⟨_, _, specs, bounds⟩
    cases pool.specs.symm.trans specs
    rw [specs]
    refine List.forall_mem_cons.mpr ⟨pool.first_neverThrottled, ?_⟩
    intro spec member
    exact (later spec member).mpr (bounds spec member)

/-- A cluster that answers every call. -/
def reachable : ClientGo where
  buildConfigFromFlags _ := .ok ⟨0, "", "", []⟩
  unversionedRESTClientFor _ := .ok ()
  defaultKubernetesUserAgent := "kperf"

def replayPhase (rate : ℚ) (conns client : Int) : LoadProfileSpec where
  rate := rate
  total := 0
  duration := 30
  conns := conns
  client := client
  contentType := .json
  disableHTTP2 := false
  maxRetries := 0
  requests := []

def replayClients (qps : ℚ) (conns : Nat) : List RestConfig :=
  List.replicate conns ⟨qps, "kperf", "application/json", []⟩

theorem pool_neverThrottled_iff_recovery :
    actionClients reachable .unset "config" "" "load.yaml"
        (.ok (.ok ⟨1, "", [replayPhase 10 5 10, replayPhase 25 10 20]⟩)) =
      .ok (⟨1, "", [replayPhase 10 5 10, replayPhase 25 10 20]⟩, replayClients 10 5) ∧
    ∀ spec ∈ [replayPhase 10 5 10, replayPhase 25 10 20], NeverThrottled (replayClients 10 5) spec := by
  have ran : actionClients reachable .unset "config" "" "load.yaml"
      (.ok (.ok ⟨1, "", [replayPhase 10 5 10, replayPhase 25 10 20]⟩)) =
        .ok (⟨1, "", [replayPhase 10 5 10, replayPhase 25 10 20]⟩, replayClients 10 5) := by
    decide +kernel
  refine ⟨ran, (pool_neverThrottled_iff ran).mpr ⟨_, _, rfl, ?_⟩⟩
  intro spec member
  cases List.mem_singleton.mp member
  decide +kernel

/-- The spike of the time series profile: 100 requests a second over five clients
that permit 10 each. -/
theorem spike_throttled :
    actionClients reachable .unset "config" "" "load.yaml"
        (.ok (.ok ⟨1, "", [replayPhase 10 5 10, replayPhase 100 20 50]⟩)) =
      .ok (⟨1, "", [replayPhase 10 5 10, replayPhase 100 20 50]⟩, replayClients 10 5) ∧
    ¬NeverThrottled (replayClients 10 5) (replayPhase 100 20 50) := by
  refine ⟨by decide +kernel, ?_⟩
  intro served
  exact absurd served.1 (by decide +kernel)

end Kperf.Cmd.Runner
