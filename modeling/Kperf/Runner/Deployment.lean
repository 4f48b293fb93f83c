import Kperf.Library.Decimal
import Kperf.Library.Goroutine
import Kperf.Library.NetAddress
import Kperf.Library.Transition
import Kperf.Types.LoadTrafficEncoding

/-! Deploying the runner groups. The server makes one handler for each group and
deploys all of them at once; a handler first ensures the config map with its load
profile and then the job of its runners. Requests go to an API server that may
refuse them, answer too late or carry them out after the process that sent them
has given up or died; a process that ends is started again. A label fixes what
comes from outside. -/

set_option autoImplicit false

namespace Kperf.Runner.Deployment

open Types Outcome

structure OwnerReference where
  apiVersion : String
  kind : String
  name : String
  uid : String
  controller : Bool
  deriving DecidableEq, Repr

/-- `strings.SplitN` with a separator of one letter. -/
def splitN (separator : Char) : Nat → String → List String
  | 0, _ => []
  | 1, text => [text]
  | count + 2, text =>
      match Text.cut text separator with
      | some (front, back) => front :: splitN separator (count + 1) back
      | none => [text]

def buildOwnerReference : Option String → Outcome (Option OwnerReference)
  | none => .ok none
  | some ref =>
      match splitN ':' 4 ref with
      | [apiVersion, kind, name, uid] => .ok (some ⟨apiVersion, kind, name, uid, true⟩)
      | _ => fail (ref ++ " own reference is not apiVersion:kind:name:uid format")

structure Handler where
  name : String
  namespace_ : String
  spec : RunnerGroupSpec
  ownerRef : Option OwnerReference
  imageRef : String
  runnerVerbosity : Int

def newHandler (namespace_ name : String) (spec : RunnerGroupSpec) (imageRef : String)
    (runnerVerbosity : Int) : Outcome Handler := do
  let ownerRef ← buildOwnerReference spec.ownerReference
  return ⟨name, namespace_, spec, ownerRef, imageRef, runnerVerbosity⟩

/-- The flags of `kperf rg server`; the owner and the account are empty when not set. -/
structure ServerFlags where
  namespace_ : String
  runnerImage : String
  runnerOwner : String
  runnerSA : String
  runnerVerbosity : Int

def ServerFlags.override (flags : ServerFlags) (spec : RunnerGroupSpec) : RunnerGroupSpec :=
  { spec with
    ownerReference := if flags.runnerOwner = "" then spec.ownerReference else some flags.runnerOwner
    serviceAccount := if flags.runnerSA = "" then spec.serviceAccount else some flags.runnerSA }

/-- The loop of `buildRunnerGroupHandlers` from `idx` on; `load` is
`NewRunnerGroupSpecFromURI`. -/
def buildHandlersFrom (flags : ServerFlags) (serverName : String)
    (load : String → Outcome RunnerGroupSpec) : Nat → List String → Outcome (List Handler)
  | _, [] => .ok []
  | idx, specURI :: rest => do
      let spec ← load specURI
      let group ← newHandler flags.namespace_ (serverName ++ "-" ++ toString idx)
        (flags.override spec) flags.runnerImage flags.runnerVerbosity
      let groups ← buildHandlersFrom flags serverName load (idx + 1) rest
      return group :: groups

def buildRunnerGroupHandlers (flags : ServerFlags) (serverName : String)
    (load : String → Outcome RunnerGroupSpec) (specURIs : List String) : Outcome (List Handler) :=
  buildHandlersFrom flags serverName load 0 specURIs

theorem buildHandlersFrom_names {flags : ServerFlags} {serverName : String}
    {load : String → Outcome RunnerGroupSpec} {idx : Nat} {specURIs : List String}
    {groups : List Handler} (built : buildHandlersFrom flags serverName load idx specURIs = .ok groups) :
    groups.map (fun group => (group.namespace_, group.name)) =
      (List.range' idx specURIs.length).map fun number =>
        (flags.namespace_, serverName ++ "-" ++ toString number) := by
  induction specURIs generalizing idx groups with
  | nil =>
      cases built
      rfl
  | cons specURI rest ih =>
      obtain ⟨spec, -, made⟩ := bind_eq_ok.mp built
      obtain ⟨group, named, continued⟩ := bind_eq_ok.mp made
      obtain ⟨others, later, returned⟩ := bind_eq_ok.mp continued
      obtain ⟨ownerRef, -, group⟩ := bind_eq_ok.mp named
      cases group
      cases returned
      rw [List.map_cons, ih later]
      rfl

/-- No two groups of a server have a name in common. -/
theorem buildRunnerGroupHandlers_distinct {flags : ServerFlags} {serverName : String}
    {load : String → Outcome RunnerGroupSpec} {specURIs : List String} {groups : List Handler}
    (built : buildRunnerGroupHandlers flags serverName load specURIs = .ok groups) :
    (groups.map fun group => (group.namespace_, group.name)).Nodup := by
  rw [buildHandlersFrom_names built]
  refine (List.nodup_range' ..).map fun first second same => ?_
  exact (Decimal.dash_inj (Prod.mk.inj same).2).2

def configMapDataKeyLoadProfile : String := "load_profile.yaml"

structure ConfigMap where
  name : String
  namespace_ : String
  ownerReferences : List OwnerReference
  immutable : Bool
  data : StringMap String

inductive EnvSource where
  | value (text : String)
  | fieldRef (fieldPath : String)
  deriving DecidableEq, Repr

structure EnvVar where
  name : String
  source : EnvSource
  deriving DecidableEq, Repr

structure VolumeMount where
  name : String
  mountPath : String
  deriving DecidableEq, Repr

inductive VolumeSource where
  | configMap (name : String)
  | hostPath (path : String)
  deriving DecidableEq, Repr

structure Volume where
  name : String
  source : VolumeSource
  deriving DecidableEq, Repr

structure NodeSelectorRequirement where
  key : String
  operator : String
  values : List String
  deriving DecidableEq, Repr

structure Container where
  name : String
  image : String
  env : List EnvVar
  volumeMounts : List VolumeMount
  command : List String
  deriving DecidableEq, Repr

structure TopologySpreadConstraint where
  maxSkew : Int
  topologyKey : String
  whenUnsatisfiable : String
  matchLabels : List (String × String)
  deriving DecidableEq, Repr

structure PodSpec where
  matchExpressions : List NodeSelectorRequirement
  containers : List Container
  restartPolicy : String
  topologySpreadConstraints : List TopologySpreadConstraint
  volumes : List Volume
  serviceAccountName : String
  deriving DecidableEq, Repr

structure BatchJob where
  name : String
  namespace_ : String
  ownerReferences : List OwnerReference
  parallelism : Int
  completions : Int
  backoffLimit : Int
  completionMode : String
  podLabels : List (String × String)
  podSpec : PodSpec
  deriving DecidableEq, Repr

/-- Objects of one kind are told apart by their namespace and their name. -/
abbrev ObjectKey := String × String

namespace Handler

variable (handler : Handler)

def key : ObjectKey := (handler.namespace_, handler.name)

def loadProfileConfigMap (raw : String) : ConfigMap where
  name := handler.name
  namespace_ := handler.namespace_
  ownerReferences := handler.ownerRef.toList
  immutable := true
  data := AList.singleton configMapDataKeyLoadProfile raw

def runner (uploadURL : String) : Container where
  name := "runner"
  image := handler.imageRef
  env :=
    [⟨"POD_NAME", .fieldRef "metadata.name"⟩, ⟨"POD_NAMESPACE", .fieldRef "metadata.namespace"⟩,
      ⟨"POD_UID", .fieldRef "metadata.uid"⟩, ⟨"TARGET_URL", .value uploadURL⟩,
      ⟨"RUNNER_VERBOSITY", .value (toString handler.runnerVerbosity)⟩]
  volumeMounts := [⟨"config", "/config"⟩, ⟨"host-root-tmp", "/data"⟩]
  command := ["/run_runner.sh"]

/-- `order` is the one in which the loop over the node affinity visits it. -/
def buildBatchJobObject (order : RangeOrder) (uploadURL : String) : BatchJob where
  name := handler.name
  namespace_ := handler.namespace_
  ownerReferences := handler.ownerRef.toList
  parallelism := handler.spec.count
  completions := handler.spec.count
  backoffLimit := 0
  completionMode := "Indexed"
  podLabels := [("app-name-job", handler.name)]
  podSpec :=
    { matchExpressions := (order.visit handler.spec.nodeAffinity).map fun entry =>
        ⟨entry.1, "In", entry.2⟩
      containers := [handler.runner uploadURL]
      restartPolicy := "Never"
      topologySpreadConstraints :=
        [⟨1, "kubernetes.io/hostname", "ScheduleAnyway", [("app-name-job", handler.name)]⟩]
      volumes := [⟨"config", .configMap handler.name⟩, ⟨"host-root-tmp", .hostPath "/tmp"⟩]
      serviceAccountName := handler.spec.serviceAccount.getD "" }

end Handler

structure Cluster where
  configMaps : ObjectKey → Option ConfigMap
  jobs : ObjectKey → Option BatchJob

def Cluster.empty : Cluster := ⟨fun _ => none, fun _ => none⟩

/-- A request to create an object. -/
inductive Request where
  | configMap (key : ObjectKey) (object : ConfigMap)
  | job (key : ObjectKey) (object : BatchJob)

namespace Request

/-- What the API server answers when the name is taken. -/
def alreadyExists : Request → String
  | .configMap key _ => "configmaps " ++ Format.quote key.2 ++ " already exists"
  | .job key _ => "jobs.batch " ++ Format.quote key.2 ++ " already exists"

/-- Nothing is created under a name that is taken. -/
def create (cluster : Cluster) : Request → Option Cluster
  | .configMap key object =>
      if (cluster.configMaps key).isSome then none
      else some { cluster with configMaps := Function.update cluster.configMaps key (some object) }
  | .job key object =>
      if (cluster.jobs key).isSome then none
      else some { cluster with jobs := Function.update cluster.jobs key (some object) }

/-- The request is carried out when no one waits for its answer. -/
def land (cluster : Cluster) (request : Request) : Cluster :=
  (request.create cluster).getD cluster

end Request

/-- What a call to create meets. A call that fails may have sent its request, which
is then carried out later or never. -/
inductive CallFault where
  | none
  | failed (sent : Bool) (err : String)
  deriving DecidableEq, Repr

/-- One server; `marshal` is `yaml.Marshal` on a load profile. -/
structure Setting where
  groups : List Handler
  distinct : (groups.map Handler.key).Nodup
  listeners : List String
  marshal : Option LoadProfile → Except String String

/-- The second half of `isLocalhost`. A host that is no IP address is not local. -/
def checkHost (addr h p : String) : Except String Bool :=
  if p = "" then .error ("invalid host name format " ++ addr)
  else
    .ok ((NetAddress.parseIP (if h = "localhost" then "127.0.0.1" else h)).any
      NetAddress.isLoopback)

def isLocalhost (addr : String) : Except String Bool :=
  match NetAddress.splitHostPort addr with
  | .error err =>
      if Text.contains err NetAddress.missingPort then checkHost addr addr ""
      else .error ("invalid address " ++ addr ++ ": " ++ err)
  | .ok (h, p) => checkHost addr h p

def firstNonLocalAddr : List String → Except String String
  | [] => .error "there is no non-local address"
  | addr :: rest =>
      match isLocalhost addr with
      | .error err => .error err
      | .ok false => .ok addr
      | .ok true => firstNonLocalAddr rest

def uploadPath : String := "/v1/runnergroups/$(POD_NAME)/result"

def Setting.uploadURL (setting : Setting) : Except String String :=
  (firstNonLocalAddr setting.listeners).map fun targetAddr =>
    "http://" ++ targetAddr ++ uploadPath

/-- Where the goroutine that deploys one group stands. -/
inductive Point where
  | getConfigMap
  | createConfigMap (raw : String)
  | getJob
  | createJob (job : BatchJob)
  deriving DecidableEq, Repr

/-- Where `deployRunnerGroups` stands. -/
inductive Main where
  | booting
  | spawning (next : Nat)
  | draining
  | returned (err : Option String)
  deriving DecidableEq, Repr

/-- `pending` are requests whose sender no longer waits. The results are history:
what `Deploy` returned for which group, since the process was started. -/
structure State where
  cluster : Cluster
  pending : List Request
  main : Main
  uploadURL : String
  deploys : Nat → Goroutine Point
  errCh : Channel (Option String)
  results : List (Nat × Option String)

namespace State

def setDeploy (state : State) (idx : Nat) (deploy : Goroutine Point) : State :=
  { state with deploys := Function.update state.deploys idx deploy }

/-- A new process over the same cluster. -/
def boot (cluster : Cluster) (pending : List Request) : State where
  cluster := cluster
  pending := pending
  main := .booting
  uploadURL := ""
  deploys := fun _ => .exited
  errCh := .empty
  results := []

end State

inductive Label where
  | begin
  | spawn
  | getConfigMap (idx : Nat) (err : Option String)
  | createConfigMap (idx : Nat) (fault : CallFault)
  | getJob (idx : Nat) (order : RangeOrder) (err : Option String)
  | createJob (idx : Nat) (fault : CallFault)
  | send (idx : Nat)
  | join
  | drain
  | land (position : Nat)
  /-- the process ends; the groups in `sent` were creating an object and had sent
  their request -/
  | crash (sent : List Nat)

/-- The group whose goroutine takes the step. -/
def Label.group : Label → Option Nat
  | .getConfigMap idx _ | .createConfigMap idx _ | .getJob idx _ _ | .createJob idx _ | .send idx =>
      some idx
  | .begin | .spawn | .join | .drain | .land _ | .crash _ => none

/-- How `Deploy` marks the errors of `uploadLoadProfileAsConfigMap`. -/
def uploadContext : String := "failed to ensure if load profile has been uploaded: "

/-- A call to create: its goroutine goes on to `next`, or returns the error. -/
def create (state : State) (idx : Nat) (context : String) (request : Request)
    (next : Goroutine Point) : CallFault → State
  | .failed sent err =>
      { state with pending := if sent then state.pending ++ [request] else state.pending }.setDeploy
        idx (.returned (some (context ++ err)))
  | .none =>
      match request.create state.cluster with
      | some cluster => { state with cluster := cluster }.setDeploy idx next
      | none => state.setDeploy idx (.returned (some (context ++ request.alreadyExists)))

/-- What `uploadLoadProfileAsConfigMap` does with the answer to `Get`. -/
def ensureConfigMap (setting : Setting) (handler : Handler) : Option ConfigMap → Goroutine Point
  | some cm =>
      if configMapDataKeyLoadProfile ∈ cm.data then .running .getJob
      else .returned (some (uploadContext ++ "configmap " ++ handler.name ++
        " doesn't have load profile"))
  | none =>
      match setting.marshal handler.spec.profile with
      | .ok raw => .running (.createConfigMap raw)
      | .error err =>
          .returned (some (uploadContext ++ "failed to marshal load profile into yaml: " ++ err))

/-- What `deployRunners` does with the answer to `Get`. -/
def ensureJob (handler : Handler) (order : RangeOrder) (uploadURL : String) :
    Option BatchJob → Goroutine Point
  | some _ => .returned none
  | none => .running (.createJob (handler.buildBatchJobObject order uploadURL))

def stepDeploy (setting : Setting) (state : State) (idx : Nat) (handler : Handler) :
    Goroutine Point → Label → Option State
  | .running .getConfigMap, .getConfigMap _ (some err) =>
      some (state.setDeploy idx (.returned (some (uploadContext ++ err))))
  | .running .getConfigMap, .getConfigMap _ none =>
      some (state.setDeploy idx
        (ensureConfigMap setting handler (state.cluster.configMaps handler.key)))
  | .running (.createConfigMap raw), .createConfigMap _ fault =>
      some (create state idx uploadContext
        (.configMap handler.key (handler.loadProfileConfigMap raw)) (.running .getJob) fault)
  | .running .getJob, .getJob _ _ (some err) => some (state.setDeploy idx (.returned (some err)))
  | .running .getJob, .getJob _ order none =>
      some (state.setDeploy idx
        (ensureJob handler order state.uploadURL (state.cluster.jobs handler.key)))
  | .running (.createJob job), .createJob _ fault =>
      some (create state idx "" (.job handler.key job) (.returned none) fault)
  | .returned err, .send _ =>
      (state.errCh.send setting.groups.length err).map fun errCh =>
        { state with errCh := errCh, results := state.results ++ [(idx, err)] }.setDeploy idx .exited
  | _, _ => none

def stepMain (setting : Setting) (state : State) : Main → Label → Option State
  | .booting, .begin =>
      match setting.uploadURL with
      | .ok uploadURL => some { state with main := .spawning 0, uploadURL := uploadURL }
      | .error err => some { state with main := .returned (some err) }
  | .spawning next, .spawn =>
      if next < setting.groups.length then
        some ({ state with main := .spawning (next + 1) }.setDeploy next (.running .getConfigMap))
      else none
  | .spawning next, .join =>
      if next = setting.groups.length ∧
          ∀ idx < setting.groups.length, state.deploys idx = .exited then
        some { state with main := .draining, errCh := state.errCh.close }
      else none
  | .draining, .drain =>
      match state.errCh.receive with
      | some (some none, errCh) => some { state with errCh := errCh }
      | some (some (some err), errCh) =>
          some { state with errCh := errCh, main := .returned (some err) }
      | some (none, _) => some { state with main := .returned none }
      | none => none
  | _, _ => none

/-- The request that a goroutine is about to make. -/
def request (handler : Handler) : Goroutine Point → Option Request
  | .running (.createConfigMap raw) =>
      some (.configMap handler.key (handler.loadProfileConfigMap raw))
  | .running (.createJob job) => some (.job handler.key job)
  | _ => none

/-- The requests that the process leaves behind. -/
def orphans (setting : Setting) (state : State) (sent : List Nat) : List Request :=
  sent.filterMap fun idx =>
    setting.groups[idx]?.bind fun handler => request handler (state.deploys idx)

def step (setting : Setting) (state : State) (label : Label) : Option State :=
  match label.group with
  | some idx =>
      setting.groups[idx]?.bind fun handler =>
        stepDeploy setting state idx handler (state.deploys idx) label
  | none =>
      match label with
      | .land position =>
          state.pending[position]?.map fun request =>
            { state with
              cluster := request.land state.cluster
              pending := state.pending.eraseIdx position }
      | .crash sent => some (.boot state.cluster (state.pending ++ orphans setting state sent))
      | label => stepMain setting state state.main label

/-- Processes over a cluster that held `before` when the first one was started. -/
def system (setting : Setting) (before : Cluster) : TransitionSystem State Label where
  initial := fun state => state = .boot before []
  step := step setting

/-! The steps as relations, one constructor for each branch. -/

/-- The call of the step fails. -/
def Label.faulty : Label → Bool
  | .getConfigMap _ err | .getJob _ _ err => err.isSome
  | .createConfigMap _ fault | .createJob _ fault => fault != .none
  | .begin | .spawn | .send _ | .join | .drain | .land _ | .crash _ => false

section Moves

variable (setting : Setting) (state : State)

inductive DeployMove (idx : Nat) (handler : Handler) : Goroutine Point → Label → State → Prop where
  | refused {point : Point} {label : Label} {err : String} :
      label.faulty = true →
      DeployMove idx handler (.running point) label (state.setDeploy idx (.returned (some err)))
  | abandoned {point : Point} {label : Label} {err : String} {sent : Request} :
      label.faulty = true → request handler (.running point) = some sent →
      DeployMove idx handler (.running point) label
        ({ state with pending := state.pending ++ [sent] }.setDeploy idx (.returned (some err)))
  | uploaded {label : Label} {cm : ConfigMap} :
      state.cluster.configMaps handler.key = some cm → configMapDataKeyLoadProfile ∈ cm.data →
      DeployMove idx handler (.running .getConfigMap) label (state.setDeploy idx (.running .getJob))
  | lacking {label : Label} {cm : ConfigMap} {err : String} :
      state.cluster.configMaps handler.key = some cm → configMapDataKeyLoadProfile ∉ cm.data →
      DeployMove idx handler (.running .getConfigMap) label
        (state.setDeploy idx (.returned (some err)))
  | marshalled {label : Label} {raw : String} :
      state.cluster.configMaps handler.key = none →
      setting.marshal handler.spec.profile = .ok raw →
      DeployMove idx handler (.running .getConfigMap) label
        (state.setDeploy idx (.running (.createConfigMap raw)))
  | unmarshalled {label : Label} {reason err : String} :
      setting.marshal handler.spec.profile = .error reason →
      DeployMove idx handler (.running .getConfigMap) label
        (state.setDeploy idx (.returned (some err)))
  | upload {label : Label} {raw : String} :
      state.cluster.configMaps handler.key = none →
      DeployMove idx handler (.running (.createConfigMap raw)) label
        ({ state with
          cluster.configMaps := Function.update state.cluster.configMaps handler.key
            (some (handler.loadProfileConfigMap raw)) }.setDeploy idx (.running .getJob))
  | uploadTaken {label : Label} {raw err : String} {cm : ConfigMap} :
      state.cluster.configMaps handler.key = some cm →
      DeployMove idx handler (.running (.createConfigMap raw)) label
        (state.setDeploy idx (.returned (some err)))
  | deployed {label : Label} {job : BatchJob} :
      state.cluster.jobs handler.key = some job →
      DeployMove idx handler (.running .getJob) label (state.setDeploy idx (.returned none))
  | build {label : Label} {order : RangeOrder} :
      state.cluster.jobs handler.key = none →
      DeployMove idx handler (.running .getJob) label (state.setDeploy idx
        (.running (.createJob (handler.buildBatchJobObject order state.uploadURL))))
  | deploy {label : Label} {job : BatchJob} :
      state.cluster.jobs handler.key = none →
      DeployMove idx handler (.running (.createJob job)) label
        ({ state with
          cluster.jobs := Function.update state.cluster.jobs handler.key
            (some job) }.setDeploy idx (.returned none))
  | deployTaken {label : Label} {job other : BatchJob} {err : String} :
      state.cluster.jobs handler.key = some other →
      DeployMove idx handler (.running (.createJob job)) label
        (state.setDeploy idx (.returned (some err)))
  | send {label : Label} {err : Option String} :
      state.errCh.closed = false → state.errCh.buffer.length < setting.groups.length →
      DeployMove idx handler (.returned err) label
        ({ state with
          errCh := ⟨state.errCh.buffer ++ [err], false⟩
          results := state.results ++ [(idx, err)] }.setDeploy idx .exited)

inductive MainMove : Main → State → Prop where
  | begin {uploadURL : String} :
      setting.uploadURL = .ok uploadURL →
      MainMove .booting { state with main := .spawning 0, uploadURL := uploadURL }
  | noAddress {err : String} :
      setting.uploadURL = .error err →
      MainMove .booting { state with main := .returned (some err) }
  | spawn {next : Nat} :
      next < setting.groups.length →
      MainMove (.spawning next)
        ({ state with main := .spawning (next + 1) }.setDeploy next (.running .getConfigMap))
  | join :
      (∀ idx < setting.groups.length, state.deploys idx = .exited) →
      MainMove (.spawning setting.groups.length)
        { state with main := .draining, errCh := state.errCh.close }
  | skip {rest : List (Option String)} :
      state.errCh.buffer = none :: rest →
      MainMove .draining { state with errCh := { state.errCh with buffer := rest } }
  | fail {rest : List (Option String)} {err : String} :
      state.errCh.buffer = some err :: rest →
      MainMove .draining
        { state with
          errCh := { state.errCh with buffer := rest }
          main := .returned (some err) }
  | finish :
      state.errCh.buffer = [] →
      MainMove .draining { state with main := .returned none }

inductive Transition : Label → State → Prop where
  | deploy {idx : Nat} {handler : Handler} {label : Label} {next : State} :
      setting.groups[idx]? = some handler →
      DeployMove setting state idx handler (state.deploys idx) label next → Transition label next
  | main {label : Label} {next : State} :
      label.faulty = false → MainMove setting state state.main next → Transition label next
  | land {position : Nat} {request : Request} :
      state.pending[position]? = some request →
      Transition (.land position)
        { state with
          cluster := request.land state.cluster
          pending := state.pending.eraseIdx position }
  | crash {sent : List Nat} :
      Transition (.crash sent) (.boot state.cluster (state.pending ++ orphans setting state sent))

end Moves

section Inversion

variable {setting : Setting} {state next : State} {label : Label}

theorem create_move {idx : Nat} {handler : Handler} {point : Point} {context : String}
    {sent : Request} {after : Goroutine Point} {fault : CallFault}
    (sending : request handler (.running point) = some sent) (label : Label)
    (faulty : label.faulty = (fault != .none))
    (created : ∀ cluster, sent.create state.cluster = some cluster →
      DeployMove setting state idx handler (.running point) label
        ({ state with cluster := cluster }.setDeploy idx after))
    (taken : ∀ err, sent.create state.cluster = none →
      DeployMove setting state idx handler (.running point) label
        (state.setDeploy idx (.returned (some err)))) :
    DeployMove setting state idx handler (.running point) label
      (create state idx context sent after fault) := by
  cases fault with
  | none =>
      unfold create
      dsimp only
      split
      · exact created _ ‹_›
      · exact taken _ ‹_›
  | failed wasSent err =>
      cases wasSent with
      | false => exact .refused faulty
      | true => exact .abandoned faulty sending

theorem stepDeploy_move {idx : Nat} {handler : Handler} {deploy : Goroutine Point}
    (stepped : stepDeploy setting state idx handler deploy label = some next) :
    DeployMove setting state idx handler deploy label next := by
  unfold stepDeploy at stepped
  split at stepped
  · cases stepped
    exact .refused rfl
  · cases stepped
    unfold ensureConfigMap
    split
    · split_ifs with present
      · exact .uploaded ‹_› present
      · exact .lacking ‹_› present
    · split
      · exact .marshalled ‹_› ‹_›
      · exact .unmarshalled ‹_›
  · cases stepped
    refine create_move rfl _ rfl ?_ ?_
    · intro cluster created
      simp only [Request.create, Option.isSome_iff_ne_none, ne_eq, ite_not,
        Option.ite_none_right_eq_some] at created
      obtain ⟨free, same⟩ := created
      cases same
      exact .upload free
    · intro err taken
      simp only [Request.create, ite_eq_left_iff, reduceCtorEq, imp_false, not_not] at taken
      obtain ⟨cm, found⟩ := Option.isSome_iff_exists.mp taken
      exact .uploadTaken found
  · cases stepped
    exact .refused rfl
  · cases stepped
    unfold ensureJob
    split
    · exact .deployed ‹_›
    · exact .build ‹_›
  · cases stepped
    refine create_move rfl _ rfl ?_ ?_
    · intro cluster created
      simp only [Request.create, Option.isSome_iff_ne_none, ne_eq, ite_not,
        Option.ite_none_right_eq_some] at created
      obtain ⟨free, same⟩ := created
      cases same
      exact .deploy free
    · intro err taken
      simp only [Request.create, ite_eq_left_iff, reduceCtorEq, imp_false, not_not] at taken
      obtain ⟨job, found⟩ := Option.isSome_iff_exists.mp taken
      exact .deployTaken found
  · obtain ⟨errCh, sent, same⟩ := Option.map_eq_some_iff.mp stepped
    obtain ⟨opened, room, rfl⟩ := Channel.send_eq_some.mp sent
    cases same
    exact .send opened room
  · cases stepped

theorem stepMain_move {main : Main} (stepped : stepMain setting state main label = some next) :
    MainMove setting state main next := by
  unfold stepMain at stepped
  split at stepped
  · split at stepped
    · cases stepped
      exact .begin ‹_›
    · cases stepped
      exact .noAddress ‹_›
  · split_ifs at stepped with below
    cases stepped
    exact .spawn below
  · split_ifs at stepped with all
    cases stepped
    obtain ⟨rfl, exited⟩ := all
    exact .join exited
  · split at stepped
    · rename_i received
      obtain ⟨rest, buffer, rfl⟩ := Channel.receive_eq_value.mp received
      cases stepped
      exact .skip buffer
    · rename_i received
      obtain ⟨rest, buffer, rfl⟩ := Channel.receive_eq_value.mp received
      cases stepped
      exact .fail buffer
    · rename_i received
      obtain ⟨buffer, -, -⟩ := Channel.receive_eq_closed.mp received
      cases stepped
      exact .finish buffer
    · cases stepped
  · cases stepped

theorem step_transition (stepped : step setting state label = some next) :
    Transition setting state label next := by
  unfold step at stepped
  split at stepped
  · obtain ⟨handler, found, moved⟩ := Option.bind_eq_some_iff.mp stepped
    exact .deploy found (stepDeploy_move moved)
  · rename_i own
    split at stepped
    · obtain ⟨request, found, rfl⟩ := Option.map_eq_some_iff.mp stepped
      exact .land found
    · cases stepped
      exact .crash
    · refine .main ?_ (stepMain_move stepped)
      cases label with
      | getConfigMap | createConfigMap | getJob | createJob => cases own
      | _ => rfl

end Inversion

end Kperf.Runner.Deployment
