import Kperf.Library.Path
import Kperf.Runner.DeploymentSafety

/-! The way of a result: the job gives its runners a URL with a reference to the name
of their pod, the kubelet resolves it, `run_runner.sh` posts the result there, and the
router of the server takes the name out of the path again. The kubelet, `curl` and the
router are parameters, with what is documented of them. -/

set_option autoImplicit false

namespace Kperf.Runner.Deployment

/-- The endpoints that `Server.Run` registers. -/
inductive Endpoint where
  | listRunnerGroupsHandler
  | getRunnerGroupsSummary
  | postRunnerGroupsRunnerResult
  deriving DecidableEq, Repr

inductive Segment where
  | literal (text : String)
  | variable (name : String)
  deriving DecidableEq, Repr

structure Route where
  method : String
  template : List Segment
  endpoint : Endpoint

def routes : List Route :=
  [⟨"GET", [.literal "v1", .literal "runnergroups"], .listRunnerGroupsHandler⟩,
    ⟨"GET", [.literal "v1", .literal "runnergroups", .literal "summary"], .getRunnerGroupsSummary⟩,
    ⟨"POST", [.literal "v1", .literal "runnergroups", .variable "runner_name", .literal "result"],
      .postRunnerGroupsRunnerResult⟩]

/-- A variable stands for one segment that is not empty. -/
def matchTemplate : List Segment → List String → Option (List (String × String))
  | [], [] => some []
  | .literal text :: template, segment :: rest =>
      if segment = text then matchTemplate template rest else none
  | .variable name :: template, segment :: rest =>
      if segment = "" then none
      else (matchTemplate template rest).map fun vars => (name, segment) :: vars
  | _, _ => none

/-- The first route for a method and the segments of a path, with its variables. -/
def firstRoute (routes : List Route) (method : String) (segments : List String) :
    Option (Endpoint × List (String × String)) :=
  routes.findSome? fun route =>
    if route.method = method then
      (matchTemplate route.template segments).map fun vars => (route.endpoint, vars)
    else none

/-- What can stand in a URL as it is. -/
def isPlainChar (char : Char) : Bool := char.isAlphanum || char == '-' || char == '.'

/-- A segment that a path is not shortened at, and that needs no escape. -/
structure PlainSegment (segment : String) : Prop where
  ordinary : Path.Ordinary segment.toList
  plain : ∀ char ∈ segment.toList, isPlainChar char = true

/-- The letters of a host, be it a name or an IPv4 address, and of its port. -/
def isAddrChar (char : Char) : Bool := isPlainChar char || char == ':'

/-- The router `mux` and the client `curl`, as far as nothing in a URL is escaped: the first
route that fits serves a request, and a URL is an address with a path. -/
structure Http where
  serve : List Route → (method path : String) → Option (Endpoint × List (String × String))
  post : (url : String) → Option (String × String)
  served : ∀ (routes : List Route) (method : String) {segments : List String}, segments ≠ [] →
    (∀ route ∈ routes, ∀ text, .literal text ∈ route.template → PlainSegment text) →
    (∀ segment ∈ segments, PlainSegment segment) →
    serve routes method (Path.absolute segments) = firstRoute routes method segments
  posted : ∀ {addr : String} {segments : List String}, segments ≠ [] →
    (∀ char ∈ addr.toList, isAddrChar char = true) →
    (∀ segment ∈ segments, PlainSegment segment) →
    post ("http://" ++ addr ++ Path.absolute segments) = some (addr, Path.absolute segments)

/-- What the letters of a name in Kubernetes can be. -/
def isNameChar (char : Char) : Bool :=
  char.isLower || char.isDigit || char == '-' || char == '.'

/-- What a pod is called. Its name is not empty and starts with no dot or dash, and
every uid is as long as any other. -/
structure Pod where
  name : String
  namespace_ : String
  uid : String
  letters : ∀ char ∈ name.toList, isNameChar char = true
  first : ∃ char rest, name.toList = char :: rest ∧ (char.isLower || char.isDigit) = true
  uidLength : uid.length = 36

theorem isNameChar_plain {char : Char} (letter : isNameChar char = true) :
    isPlainChar char = true := by
  simp only [isNameChar, isPlainChar, Bool.or_eq_true] at letter ⊢
  rcases letter with ((lower | digit) | dash) | dot
  · exact .inl (.inl (Text.isAlphanum_of_named (by rw [lower, Bool.or_true])))
  · exact .inl (.inl (Text.isAlphanum_of_named (by rw [digit, Bool.true_or])))
  · exact .inl (.inr dash)
  · exact .inr dot

theorem Pod.ordinary (pod : Pod) : Path.Ordinary pod.name.toList := by
  obtain ⟨char, rest, spelled, alphanumeric⟩ := pod.first
  refine ⟨fun slash => ?_, ?_, ?_, ?_⟩
  · exact absurd (pod.letters '/' slash) (by decide)
  all_goals
    intro same
    rw [spelled] at same
    cases same
  · exact absurd alphanumeric (by decide)
  · exact absurd alphanumeric (by decide)

theorem Pod.plainName (pod : Pod) : PlainSegment pod.name :=
  ⟨pod.ordinary, fun char member => isNameChar_plain (pod.letters char member)⟩

/-- The value of a `fieldRef`. -/
def Pod.field (pod : Pod) : String → String
  | "metadata.name" => pod.name
  | "metadata.namespace" => pod.namespace_
  | "metadata.uid" => pod.uid
  | _ => ""

/-- The kubelet puts the value of a variable in the place of a reference to it. -/
structure Kubelet where
  expand : (String → Option String) → String → String
  reference : ∀ (env : String → Option String) (front name back : String) {value : String},
    '$' ∉ front.toList → ')' ∉ name.toList → '$' ∉ back.toList → env name = some value →
    expand env (front ++ ("$(" ++ name ++ ")") ++ back) = front ++ value ++ back

/-- The variables of a container in their order. A value may refer to the variables
before it; `known` are those, the latest first. -/
def resolveEnv (kubelet : Kubelet) (pod : Pod) :
    List (String × String) → List EnvVar → List (String × String)
  | known, [] => known
  | known, var :: rest =>
      let value :=
        match var.source with
        | .value text => kubelet.expand (known.lookup ·) text
        | .fieldRef fieldPath => pod.field fieldPath
      resolveEnv kubelet pod ((var.name, value) :: known) rest

/-- What `run_runner.sh` makes of its environment. -/
structure Script where
  verbosity : String
  userAgent : String
  resultFile : String
  targetURL : String
  deriving DecidableEq, Repr

/-- The script ends at a variable that is not set. -/
def runRunner (env : String → Option String) : Option Script := do
  let namespace_ ← env "POD_NAMESPACE"
  let name ← env "POD_NAME"
  let uid ← env "POD_UID"
  let verbosity ← env "RUNNER_VERBOSITY"
  let targetURL ← env "TARGET_URL"
  return {
    verbosity := verbosity
    userAgent := name
    resultFile := "/data/" ++ namespace_ ++ "-" ++ name ++ "-" ++ uid ++ ".json"
    targetURL := targetURL }

/-- The script in a pod of a job, if that runs it. -/
def BatchJob.script (job : BatchJob) (kubelet : Kubelet) (pod : Pod) : Option Script :=
  match job.podSpec.containers with
  | [container] =>
      if container.command = ["/run_runner.sh"] then
        runRunner ((resolveEnv kubelet pod [] container.env).lookup ·)
      else none
  | _ => none

def resultSegments (runnerName : String) : List String :=
  ["v1", "runnergroups", runnerName, "result"]

/-- The path of the result of a runner. -/
def resultPath (runnerName : String) : String := Path.absolute (resultSegments runnerName)

theorem resultPath_eq (runnerName : String) :
    resultPath runnerName = "/v1/runnergroups/" ++ runnerName ++ "/result" := by
  simp [resultPath, resultSegments, Path.absolute, ← String.toList_inj]

theorem plainSegment_literal {text : String}
    (known : text ∈ ["v1", "runnergroups", "summary", "result"]) : PlainSegment text := by
  have plain : ∀ text ∈ ["v1", "runnergroups", "summary", "result"],
      '/' ∉ text.toList ∧ text.toList ≠ [] ∧ text.toList ≠ ['.'] ∧ text.toList ≠ ['.', '.'] ∧
        text.toList.all isPlainChar = true := by decide
  obtain ⟨slash, present, dot, dots, letters⟩ := plain text known
  exact ⟨⟨slash, present, dot, dots⟩, List.all_eq_true.mp letters⟩

theorem routes_plain {route : Route} (member : route ∈ routes) {text : String}
    (literal : .literal text ∈ route.template) : PlainSegment text := by
  refine plainSegment_literal ?_
  have all : ∀ route ∈ routes, ∀ segment ∈ route.template, ∀ text, segment = .literal text →
      text ∈ ["v1", "runnergroups", "summary", "result"] := by
    simp [routes]
  exact all route member _ literal text rfl

theorem resultSegments_plain {runnerName : String} (plain : PlainSegment runnerName) :
    ∀ segment ∈ resultSegments runnerName, PlainSegment segment := by
  intro segment member
  by_cases same : segment = runnerName
  · rwa [same]
  · refine plainSegment_literal ?_
    simp [resultSegments, same] at member
    rcases member with rfl | rfl | rfl <;> decide

/-- The router hands a result to its endpoint under the name of the runner. -/
theorem Http.serve_resultPath (http : Http) {runnerName : String}
    (plain : PlainSegment runnerName) :
    http.serve routes "POST" (resultPath runnerName) =
      some (.postRunnerGroupsRunnerResult, [("runner_name", runnerName)]) := by
  have named : runnerName ≠ "" := fun empty => plain.ordinary.present (by rw [empty]; rfl)
  rw [resultPath, http.served routes "POST" (by simp [resultSegments])
    (fun route member text => routes_plain member) (resultSegments_plain plain)]
  simp [firstRoute, routes, matchTemplate, resultSegments, named]

/-- An address with a port whose host is neither `localhost` nor a loopback address. -/
def Remote (addr : String) : Prop :=
  ∃ host port, NetAddress.splitHostPort addr = .ok (host, port) ∧ port ≠ "" ∧
    host ≠ "localhost" ∧ ∀ ip, NetAddress.parseIP host = some ip → NetAddress.isLoopback ip = false

theorem remote_of_isLocalhost {addr : String} (remote : isLocalhost addr = .ok false) :
    Remote addr := by
  unfold isLocalhost at remote
  split at remote
  · split at remote
    · cases remote
    · cases remote
  · rename_i host port split
    refine ⟨host, port, split, ?_⟩
    unfold checkHost at remote
    split at remote
    · cases remote
    · rename_i ported
      have remote := Except.ok.inj remote
      have named : host ≠ "localhost" := by
        intro same
        rw [if_pos same] at remote
        revert remote
        decide
      refine ⟨ported, named, fun ip parsed => ?_⟩
      rw [if_neg named, parsed] at remote
      exact remote

theorem firstNonLocalAddr_eq_ok {listeners : List String}
    {addr : String} (found : firstNonLocalAddr listeners = .ok addr) :
    ∃ front back, listeners = front ++ addr :: back ∧ isLocalhost addr = .ok false ∧
      ∀ earlier ∈ front, isLocalhost earlier = .ok true := by
  induction listeners with
  | nil => cases found
  | cons listener rest ih =>
      unfold firstNonLocalAddr at found
      split at found
      · cases found
      · rename_i remote
        cases found
        exact ⟨[], rest, rfl, remote, fun _ member => by cases member⟩
      · rename_i near
        obtain ⟨front, back, rfl, remote, skipped⟩ := ih found
        exact ⟨listener :: front, back, rfl, remote, List.forall_mem_cons.mpr ⟨near, skipped⟩⟩

/-- The URL of the results is at the first address that is not local. -/
theorem uploadURL_eq_ok {setting : Setting} {uploadURL : String}
    (reached : setting.uploadURL = .ok uploadURL) :
    ∃ front addr back, setting.listeners = front ++ addr :: back ∧
      (∀ earlier ∈ front, isLocalhost earlier = .ok true) ∧
      isLocalhost addr = .ok false ∧ uploadURL = "http://" ++ addr ++ uploadPath := by
  unfold Setting.uploadURL at reached
  cases first : firstNonLocalAddr setting.listeners with
  | error err =>
      rw [first] at reached
      cases reached
  | ok addr =>
      rw [first] at reached
      cases reached
      obtain ⟨front, back, listed, remote, near⟩ := firstNonLocalAddr_eq_ok first
      exact ⟨front, addr, back, listed, near, remote, rfl⟩

/-- The variables of a runner in front of the URL. -/
def Pod.variables (pod : Pod) : List (String × String) :=
  [("POD_UID", pod.uid), ("POD_NAMESPACE", pod.namespace_), ("POD_NAME", pod.name)]

/-- The script of a runner that was given the URL of an address. -/
theorem script_buildBatchJobObject (handler : Handler) (order : RangeOrder) {addr : String}
    (kubelet : Kubelet) (pod : Pod) (plain : '$' ∉ addr.toList) :
    ∃ script,
      (handler.buildBatchJobObject order ("http://" ++ addr ++ uploadPath)).script kubelet pod =
        some script ∧
      script.userAgent = pod.name ∧
      script.resultFile =
        "/data/" ++ pod.namespace_ ++ "-" ++ pod.name ++ "-" ++ pod.uid ++ ".json" ∧
      script.targetURL = "http://" ++ addr ++ resultPath pod.name := by
  have front : '$' ∉ ("http://" ++ addr ++ "/v1/runnergroups/").toList := by
    simp [plain]
  have url : "http://" ++ addr ++ uploadPath =
      "http://" ++ addr ++ "/v1/runnergroups/" ++ ("$(" ++ "POD_NAME" ++ ")") ++ "/result" := by
    simp only [String.append_assoc]
    rfl
  have target : kubelet.expand (pod.variables.lookup ·) ("http://" ++ addr ++ uploadPath) =
      "http://" ++ addr ++ resultPath pod.name := by
    rw [url, kubelet.reference (pod.variables.lookup ·) _ "POD_NAME" "/result" front (by decide)
      (by decide) rfl, resultPath_eq]
    simp only [String.append_assoc]
  exact ⟨_, rfl, rfl, rfl, target⟩

theorem resultFile_inj {pod other : Pod}
    (same : "/data/" ++ pod.namespace_ ++ "-" ++ pod.name ++ "-" ++ pod.uid ++ ".json" =
      "/data/" ++ other.namespace_ ++ "-" ++ other.name ++ "-" ++ other.uid ++ ".json") :
    pod.uid = other.uid := by
  have chars := congrArg String.toList same
  simp only [String.toList_append, List.append_cancel_right_eq] at chars
  have lengths : pod.uid.toList.length = other.uid.toList.length := by
    rw [String.length_toList, String.length_toList, pod.uidLength, other.uidLength]
  exact String.toList_inj.mp (List.append_inj_right' chars lengths)

/-- The script posts to the first address that is not local, and the router hands the
request to the endpoint for results under the name of the pod. -/
structure Script.Delivers (setting : Setting) (http : Http) (pod : Pod) (script : Script) :
    Prop where
  agent : script.userAgent = pod.name
  routed : ∃ front addr back path, setting.listeners = front ++ addr :: back ∧
    (∀ earlier ∈ front, isLocalhost earlier = .ok true) ∧ Remote addr ∧
    http.post script.targetURL = some (addr, path) ∧
    http.serve routes "POST" path =
      some (.postRunnerGroupsRunnerResult, [("runner_name", pod.name)])

/-- The job is there and a process of the server deployed it. -/
def Deployed (before cluster : Cluster) (job : BatchJob) : Prop :=
  ∃ key, cluster.jobs key = some job ∧ before.jobs key = none

/-- Every runner of a deployed job is heard under its own name, and no two pods write
their result to the same file, also when they share a node. -/
structure Delivery (setting : Setting) (http : Http) (kubelet : Kubelet)
    (before cluster : Cluster) : Prop where
  delivers : ∀ {job}, Deployed before cluster job → ∀ pod, ∃ script,
    job.script kubelet pod = some script ∧ script.Delivers setting http pod
  apart : ∀ {job otherJob pod other script otherScript}, Deployed before cluster job →
    Deployed before cluster otherJob → job.script kubelet pod = some script →
    otherJob.script kubelet other = some otherScript →
    script.resultFile = otherScript.resultFile → pod.uid = other.uid

section Runs

variable {setting : Setting} {before : Cluster} {trace : List Label} {state : State}

theorem script_of_deployed (run : (system setting before).Run trace state)
    (plain : ∀ addr ∈ setting.listeners, ∀ char ∈ addr.toList, isAddrChar char = true)
    (http : Http) (kubelet : Kubelet) {job : BatchJob}
    (deployed : Deployed before state.cluster job) (pod : Pod) :
    ∃ script, job.script kubelet pod = some script ∧ script.Delivers setting http pod ∧
      script.resultFile =
        "/data/" ++ pod.namespace_ ++ "-" ++ pod.name ++ "-" ++ pod.uid ++ ".json" := by
  obtain ⟨key, found, absent⟩ := deployed
  rcases (sound_of_run run).grown.jobs found with old | ⟨⟨handler, -, -, order, url, reached, rfl⟩, -⟩
  · rw [absent] at old
    cases old
  · obtain ⟨front, addr, back, listed, near, remote, rfl⟩ := uploadURL_eq_ok reached
    have letters := plain addr (by simp [listed])
    have noReference : '$' ∉ addr.toList := fun member => absurd (letters '$' member) (by decide)
    obtain ⟨script, resolved, agent, file, target⟩ :=
      script_buildBatchJobObject handler order kubelet pod noReference
    refine ⟨script, resolved, ⟨agent, front, addr, back, resultPath pod.name, listed, near,
      remote_of_isLocalhost remote, ?_, http.serve_resultPath pod.plainName⟩, file⟩
    rw [target]
    exact http.posted (by simp [resultSegments]) letters (resultSegments_plain pod.plainName)

end Runs

namespace Sample

/-- An expansion of the first reference of a text. -/
def expand (env : String → Option String) (text : String) : String :=
  match Text.cut text '$' with
  | none => text
  | some (front, rest) =>
      match Text.cut (String.ofList (rest.toList.drop 1)) ')' with
      | none => text
      | some (name, back) =>
          front ++ (env name).getD ("$(" ++ name ++ ")") ++ back

def kubelet : Kubelet where
  expand := expand
  reference := by
    intro env front name back value plain closed _ known
    have outer : Text.cut (front ++ ("$(" ++ name ++ ")") ++ back) '$' =
        some (front, "(" ++ name ++ ")" ++ back) := Text.cut_eq (by simp) plain
    have inner : Text.cut (String.ofList (("(" ++ name ++ ")" ++ back).toList.drop 1)) ')' =
        some (name, back) := Text.cut_eq (by simp) closed
    simp only [expand, outer, inner, known, Option.getD_some]

/-- A router that sends a client with a path that is not clean elsewhere, and a client that
takes all up to the path for the address. -/
def serve (routes : List Route) (method path : String) :
    Option (Endpoint × List (String × String)) :=
  if Path.clean path ≠ path then none
  else firstRoute routes method (((path.toList.splitOn '/').drop 1).map String.ofList)

def post (url : String) : Option (String × String) :=
  if Text.hasPrefix url "http://" then
    let rest := url.toList.drop 7
    some (String.ofList (rest.takeWhile (· ≠ '/')), String.ofList (rest.dropWhile (· ≠ '/')))
  else none

theorem post_eq {addr : String} {path : List Char} (plain : '/' ∉ addr.toList) :
    post ("http://" ++ addr ++ String.ofList ('/' :: path)) =
      some (addr, String.ofList ('/' :: path)) := by
  have kept : ∀ char ∈ addr.toList, decide (char ≠ '/') = true := by
    intro char member
    refine decide_eq_true fun same => plain ?_
    rwa [← same]
  have spelled : ("http://" ++ addr ++ String.ofList ('/' :: path)).toList =
      "http://".toList ++ (addr.toList ++ '/' :: path) := by simp
  have lead : Text.hasPrefix ("http://" ++ addr ++ String.ofList ('/' :: path)) "http://" = true := by
    rw [Text.hasPrefix, spelled, List.isPrefixOf_iff_prefix]
    exact List.prefix_append _ _
  rw [post, if_pos lead, spelled, List.drop_left' (by decide)]
  dsimp only
  rw [List.takeWhile_append_of_pos kept, List.dropWhile_append_of_pos kept]
  simp

def http : Http where
  serve := serve
  post := post
  served := by
    intro routes method segments present _ plain
    have ordinary : ∀ segment ∈ segments, Path.Ordinary segment.toList :=
      fun segment member => (plain segment member).ordinary
    rw [serve, if_neg (not_not.mpr (Path.clean_absolute present ordinary)),
      Path.splitOn_absolute present ordinary]
    simp
  posted := by
    intro addr segments present letters _
    rw [Path.absolute_eq present]
    exact post_eq fun slash => absurd (letters '/' slash) (by decide)

def pod : Pod where
  name := "server-0-1-x7"
  namespace_ := "runners"
  uid := "0b5c1c1e-27b4-4a5c-9f0e-8d3a5e6f7a80"
  letters := List.all_eq_true.mp (by decide)
  first := ⟨'s', _, rfl, rfl⟩
  uidLength := by decide

end Sample

end Kperf.Runner.Deployment
