import Kperf.Types.LoadTraffic

/-! `NewClients`: one REST client per connection, all with one configuration.
What client-go answers is part of the input; a client is known by the
configuration it was made with. -/

set_option autoImplicit false

namespace Kperf.Request

open Types Outcome

def maxInt32 : ℚ := 2147483647

structure ClientCfg where
  userAgent : String
  qps : ℚ
  contentType : ContentType
  disableHTTP2 : Bool
  deriving DecidableEq, Repr

def defaultClientCfg : ClientCfg where
  userAgent := ""
  qps := maxInt32
  contentType := .json
  disableHTTP2 := false

abbrev ClientCfgOpt := ClientCfg → ClientCfg

def withClientQPSOpt (qps : ℚ) : ClientCfgOpt := fun cfg =>
  if 0 < qps then { cfg with qps } else cfg

def withClientUserAgentOpt (userAgent : String) : ClientCfgOpt := fun cfg =>
  { cfg with userAgent }

def withClientContentTypeOpt (contentType : ContentType) : ClientCfgOpt := fun cfg =>
  { cfg with contentType }

def withClientDisableHTTP2Opt (disableHTTP2 : Bool) : ClientCfgOpt := fun cfg =>
  { cfg with disableHTTP2 }

/-- The fields of `rest.Config` that are set here. -/
structure RestConfig where
  qps : ℚ
  userAgent : String
  contentType : String
  nextProtos : List String
  deriving DecidableEq, Repr

/-- What client-go answers. -/
structure ClientGo where
  buildConfigFromFlags : String → Except String RestConfig
  unversionedRESTClientFor : RestConfig → Except String Unit
  defaultKubernetesUserAgent : String

def ClientCfg.apply (library : ClientGo) (cfg : ClientCfg) (restCfg : RestConfig) :
    Outcome RestConfig :=
  let restCfg := { restCfg with qps := cfg.qps }
  let restCfg :=
    { restCfg with
      userAgent := if cfg.userAgent = "" then library.defaultKubernetesUserAgent else cfg.userAgent }
  let protocols := if cfg.disableHTTP2 then ["http/1.1"] else restCfg.nextProtos
  if cfg.contentType = .json then
    .ok { restCfg with contentType := "application/json", nextProtos := protocols }
  else if cfg.contentType = .protobuffer then
    .ok { restCfg with
      contentType := "application/vnd.kubernetes.protobuf", nextProtos := protocols }
  else fail ("invalid content type: " ++ cfg.contentType.name)

/-- An error of a library call, returned as it is. -/
def returned {α : Type} : Except String α → Outcome α
  | .ok value => .ok value
  | .error message => fail message

def newClients (library : ClientGo) (kubeCfgPath : String) (connsNum : Int)
    (opts : List ClientCfgOpt) : Outcome (List RestConfig) := do
  let cfg := opts.foldl (fun cfg opt => opt cfg) defaultClientCfg
  let restCfg ← returned (library.buildConfigFromFlags kubeCfgPath)
  let restCfg ← cfg.apply library restCfg
  if connsNum < 0 then panics "runtime error: makeslice: cap out of range"
  else
    (List.range connsNum.toNat).mapM fun _ => do
      returned (library.unversionedRESTClientFor restCfg)
      .ok restCfg

theorem ClientCfg.apply_qps {library : ClientGo} {cfg : ClientCfg} {restCfg applied : RestConfig}
    (ran : cfg.apply library restCfg = .ok applied) : applied.qps = cfg.qps := by
  unfold apply at ran
  dsimp only at ran
  split at ran
  · cases ran
    rfl
  · split at ran
    · cases ran
      rfl
    · cases ran

theorem newClients_ok {library : ClientGo} {kubeCfgPath : String} {connsNum : Int}
    {opts : List ClientCfgOpt} {restClients : List RestConfig}
    (ran : newClients library kubeCfgPath connsNum opts = .ok restClients) :
    restClients.length = connsNum.toNat ∧ ∀ client ∈ restClients,
      client.qps = (opts.foldl (fun cfg opt => opt cfg) defaultClientCfg).qps := by
  obtain ⟨restCfg, -, ran⟩ := bind_eq_ok.mp ran
  obtain ⟨applied, set, ran⟩ := bind_eq_ok.mp ran
  split at ran
  · cases ran
  · obtain ⟨lengths, sources⟩ := mapM_ok ran
    rw [List.length_range] at lengths
    refine ⟨lengths, ?_⟩
    intro client member
    obtain ⟨-, made⟩ := sources client member
    obtain ⟨-, -, same⟩ := bind_eq_ok.mp made
    cases same
    exact ClientCfg.apply_qps set

end Kperf.Request
