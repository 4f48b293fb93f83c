import Kperf.Request.PayloadChoice
import Kperf.Request.PostDelProperties
import Kperf.Request.ScheduleTransition

/-! Where the requests go. `AbsPath` of the REST client joins the segments of a
call below the base path of the server; the builders spell the segments each on
their own. -/

set_option autoImplicit false

namespace Kperf.Request

open Types Outcome

/-- A server as the clients of one run see it. The query holds the options of the
call and the timeout, the same for every request. -/
structure Endpoint where
  base : String
  basePath : String
  query : Options → String

def Endpoint.client (endpoint : Endpoint) : RESTClient where
  url call :=
    ⟨endpoint.base, Path.join [endpoint.basePath, Path.join call.path], endpoint.query call.options⟩

def absPath (segments : List String) : String := Path.join ["/", Path.join segments]

/-- The core group has no name; `Validate` of a put also takes this one. -/
def CoreGroup (group : String) : Prop := group = "" ∨ group = "core"

instance (group : String) : Decidable (CoreGroup group) := inferInstanceAs (Decidable (_ ∨ _))

def canonicalElements (kube : KubeGroupVersionResource) (namespace_ : String)
    (object : List String) : List String :=
  (if CoreGroup kube.group then ["api", kube.version] else ["apis", kube.group, kube.version]) ++
    (if namespace_ = "" then [] else ["namespaces", namespace_]) ++ kube.resource :: object

def canonicalPath (kube : KubeGroupVersionResource) (namespace_ : String)
    (object : List String) : String :=
  Path.absolute (canonicalElements kube namespace_ object)

example : canonicalPath ⟨"apps", "v1", "deployments"⟩ "default" ["web"] =
    "/apis/apps/v1/namespaces/default/deployments/web" := by decide

def numberedName (name : String) (keySpaceSize : Int) (drawn : Nat) : String :=
  name ++ "-" ++ toString ((drawn : Int) % keySpaceSize)

end Kperf.Request

namespace Kperf.Types.Payload

open Request

def kube : Payload → KubeGroupVersionResource
  | .staleList request | .quorumList request => request.kube
  | .watchList request => request.kube
  | .staleGet request | .quorumGet request => request.kube
  | .put request => request.kube
  | .patch request => request.kube
  | .getPodLog _ => ⟨"", "v1", "pods"⟩
  | .postDel request => request.kube

def namespace_ : Payload → String
  | .staleList request | .quorumList request => request.namespace_
  | .watchList request => request.namespace_
  | .staleGet request | .quorumGet request => request.namespace_
  | .put request => request.namespace_
  | .patch request => request.namespace_
  | .getPodLog request => request.namespace_
  | .postDel request => request.namespace_

/-- What one `Build` addresses below the resource. -/
def object (state : PostDelState) (draws : Draws) : Payload → List String
  | .staleList _ | .quorumList _ | .watchList _ => []
  | .staleGet request | .quorumGet request => [request.name]
  | .put request => [numberedName request.name request.keySpaceSize draws.number]
  | .patch request => [numberedName request.name request.keySpaceSize draws.number]
  | .getPodLog request => [request.name, "log"]
  | .postDel request =>
      ((PostDelBuilder.buildDelete ⟨request, 0⟩ state draws.number).map Prod.fst).toList

/-- The segments before the resource, as the builder of this kind spells them. -/
def lead : Payload → List String
  | .put request => ["api", request.kube.version, "namespaces", request.namespace_]
  | .getPodLog request => ["api", "v1", "namespaces", request.namespace_]
  | payload => resourcePath payload.kube payload.namespace_

/-- What the canonical path needs beyond validation: a put has a namespace, and no
other kind names the core group. -/
def Canonical : Payload → Prop
  | .put request => request.namespace_ ≠ ""
  | .getPodLog _ => True
  | payload => payload.kube.group ≠ "core"

end Kperf.Types.Payload

namespace Kperf.Request

open Types Outcome

theorem validate_single {request checked : WeightedRequest} {payload : Payload}
    (accepted : request.validate = .ok checked) (one : request.payloads = [payload]) :
    ∃ valid, payload.validate = .ok valid ∧ checked = .single request.shares valid := by
  rw [WeightedRequest.eq_single one] at accepted
  have signed := (WeightedRequest.validate_ok accepted).1
  unfold WeightedRequest.validate at accepted
  rw [if_neg (Int.not_lt.mpr signed)] at accepted
  cases payload with
  | patch patch =>
      obtain ⟨trimmed, validated, same⟩ := bind_eq_ok.mp accepted
      cases same
      exact ⟨.patch trimmed, bind_eq_ok.mpr ⟨trimmed, validated, rfl⟩, rfl⟩
  | _ =>
      obtain ⟨⟨⟩, validated, same⟩ := bind_eq_ok.mp accepted
      cases same
      exact ⟨_, bind_eq_ok.mpr ⟨(), validated, rfl⟩, rfl⟩

theorem newBuilder_single (maxRetries shares : Int) (payload : Payload) :
    newBuilder maxRetries (.single shares payload) = .ok (payloadBuilder maxRetries payload) := by
  cases payload <;> rfl

theorem randInt_eq_ok {bound suffix : Int} {drawn : Nat} (drew : randInt bound drawn = .ok suffix) :
    suffix = drawn % bound := by
  unfold randInt at drew
  split at drew
  · cases drew
  · exact (Except.ok.inj drew).symm

theorem PatchBuilder.build_path {builder : PatchBuilder} {drawn : Nat} {requester : Requester}
    (built : builder.build drawn = .ok requester) :
    requester.call.path = resourcePath builder.src.kube builder.src.namespace_ ++
      [builder.src.kube.resource, numberedName builder.src.name builder.src.keySpaceSize drawn] := by
  obtain ⟨suffix, drew, made⟩ := bind_eq_ok.mp built
  cases made
  rw [randInt_eq_ok drew]
  rfl

theorem PutBuilder.build_path {builder : PutBuilder} {drawn : Nat} {payload : String}
    {requester : Requester} (built : builder.build drawn payload = .ok requester) :
    requester.call.path = ["api", builder.src.kube.version, "namespaces", builder.src.namespace_,
      builder.src.kube.resource,
      numberedName builder.src.name builder.src.keySpaceSize drawn] := by
  obtain ⟨suffix, drew, made⟩ := bind_eq_ok.mp built
  cases made
  rw [randInt_eq_ok drew]
  rfl

theorem PostDelBuilder.buildFrom_path {builder : PostDelBuilder} {maxAlloc : Nat}
    {state after : PostDelState} {draws : Draws} {requester : Requester}
    (built : (RESTRequestBuilder.postDel builder).buildFrom maxAlloc state draws =
      .ok (requester, after)) :
    requester.call.path = resourcePath builder.src.kube builder.src.namespace_ ++
      builder.src.kube.resource ::
        ((builder.buildDelete state draws.number).map Prod.fst).toList := by
  dsimp only [RESTRequestBuilder.buildFrom] at built
  split at built
  · rename_i popped
    cases built
    rw [popped]
    rfl
  · rename_i create
    rw [create]
    obtain ⟨payload, -, built⟩ := bind_eq_ok.mp built
    obtain ⟨posted, made, same⟩ := bind_eq_ok.mp built
    cases same
    obtain ⟨body, rfl⟩ := Schedule.buildPost_eq_ok made
    rfl

/-- Every `Build` spells the lead of its kind, the resource and the object. -/
theorem buildFrom_path {payload valid : Payload} {maxRetries : Int} {maxAlloc : Nat}
    {state after : PostDelState} {draws : Draws} {requester : Requester}
    (accepted : payload.validate = .ok valid)
    (built : (payloadBuilder maxRetries valid).buildFrom maxAlloc state draws =
      .ok (requester, after)) :
    requester.call.path =
      payload.lead ++ payload.kube.resource :: payload.object state draws := by
  cases payload with
  | patch patch =>
      obtain ⟨trimmed, validated, same⟩ := bind_eq_ok.mp accepted
      cases same
      obtain ⟨-, rfl⟩ := RequestPatch.validate_trimmed validated
      obtain ⟨patched, made, same⟩ := bind_eq_ok.mp built
      cases same
      exact PatchBuilder.build_path made
  | put put =>
      obtain ⟨⟨⟩, -, same⟩ := bind_eq_ok.mp accepted
      cases same
      obtain ⟨drawn, -, built⟩ := bind_eq_ok.mp built
      obtain ⟨payload, -, built⟩ := bind_eq_ok.mp built
      obtain ⟨replaced, made, same⟩ := bind_eq_ok.mp built
      cases same
      exact PutBuilder.build_path made
  | postDel postDel =>
      obtain ⟨⟨⟩, -, same⟩ := bind_eq_ok.mp accepted
      cases same
      exact PostDelBuilder.buildFrom_path built
  | _ =>
      obtain ⟨⟨⟩, -, same⟩ := bind_eq_ok.mp accepted
      cases same
      cases built
      rfl

/-- No slash and no dot segment. -/
def Plain (text : String) : Prop := '/' ∉ text.toList ∧ text ≠ "." ∧ text ≠ ".."

instance (text : String) : Decidable (Plain text) := inferInstanceAs (Decidable (_ ∧ _ ∧ _))

theorem Plain.ordinary {text : String} (plain : Plain text) (present : text ≠ "") :
    Path.Ordinary text.toList := by
  obtain ⟨slashFree, noDot, noDotDot⟩ := plain
  refine ⟨slashFree, ?_, ?_, ?_⟩
  · simpa using present
  · exact fun same => noDot (String.toList_injective same)
  · exact fun same => noDotDot (String.toList_injective same)

theorem absPath_eq_absolute_iff {segments elements : List String}
    (plain : ∀ segment ∈ segments, Plain segment) (kept : segments.filter (· ≠ "") ≠ [])
    (ordinary : ∀ element ∈ elements, Path.Ordinary element.toList) (some : elements ≠ []) :
    absPath segments = Path.absolute elements ↔ segments.filter (· ≠ "") = elements := by
  rw [absPath, Path.join_root kept fun segment member => (plain segment member).ordinary]
  constructor
  · refine Path.absolute_inj kept some ?_
    intro element member
    rcases List.mem_append.mp member with named | listed
    · obtain ⟨listed, present⟩ := List.mem_filter.mp named
      exact (plain element listed).ordinary (by simpa using present)
    · exact ordinary element listed
  · exact fun same => congrArg Path.absolute same

section Coordinates

variable {payload valid : Payload} {object : List String}

/-- What validation and the builder make sure of: the parts that must not be empty. -/
structure Addressed (payload : Payload) (object : List String) : Prop where
  version : payload.kube.version ≠ ""
  resource : payload.kube.resource ≠ ""
  object : ∀ element ∈ object, element ≠ ""

theorem kube_validate {kube : KubeGroupVersionResource} {context : String}
    (accepted : wrap context kube.validate = .ok ()) : kube.version ≠ "" ∧ kube.resource ≠ "" := by
  obtain ⟨version, accepted⟩ := guard_eq_ok.mp (wrap_eq_ok.mp accepted)
  exact ⟨version, (guard_eq_ok.mp accepted).1⟩

theorem ne_empty_of_dash {text : String} (dash : '-' ∈ text.toList) : text ≠ "" := by
  rintro rfl
  cases dash

theorem numberedName_ne_empty (name : String) (keySpaceSize : Int) (drawn : Nat) :
    numberedName name keySpaceSize drawn ≠ "" :=
  ne_empty_of_dash (by simp [numberedName])

theorem addressed_of_valid {actions : List PostDel.Label} {pool : PostDel.Pool}
    (accepted : payload.validate = .ok valid) (run : PostDel.system.Run actions pool)
    (draws : Draws) : Addressed payload (payload.object pool.state draws) := by
  cases payload with
  | staleList list | quorumList list =>
      obtain ⟨⟨⟩, validated, -⟩ := bind_eq_ok.mp accepted
      obtain ⟨⟨⟩, kube, -⟩ := bind_eq_ok.mp validated
      obtain ⟨version, resource⟩ := kube_validate kube
      exact ⟨version, resource, List.forall_mem_nil _⟩
  | watchList watch =>
      obtain ⟨⟨⟩, validated, -⟩ := bind_eq_ok.mp accepted
      obtain ⟨version, resource⟩ := kube_validate validated
      exact ⟨version, resource, List.forall_mem_nil _⟩
  | staleGet get | quorumGet get =>
      obtain ⟨⟨⟩, validated, -⟩ := bind_eq_ok.mp accepted
      obtain ⟨⟨⟩, kube, validated⟩ := bind_eq_ok.mp validated
      obtain ⟨version, resource⟩ := kube_validate kube
      exact ⟨version, resource, List.forall_mem_singleton.mpr (guard_eq_ok.mp validated).1⟩
  | put put =>
      obtain ⟨⟨⟩, validated, -⟩ := bind_eq_ok.mp accepted
      obtain ⟨⟨⟩, kube, -⟩ := bind_eq_ok.mp validated
      obtain ⟨version, resource⟩ := kube_validate kube
      exact ⟨version, resource, List.forall_mem_singleton.mpr (numberedName_ne_empty _ _ _)⟩
  | patch patch =>
      obtain ⟨trimmed, validated, -⟩ := bind_eq_ok.mp accepted
      obtain ⟨⟨⟩, kube, -⟩ := bind_eq_ok.mp validated
      obtain ⟨version, resource⟩ := kube_validate kube
      exact ⟨version, resource, List.forall_mem_singleton.mpr (numberedName_ne_empty _ _ _)⟩
  | getPodLog log =>
      obtain ⟨⟨⟩, validated, -⟩ := bind_eq_ok.mp accepted
      obtain ⟨-, validated⟩ := guard_eq_ok.mp validated
      obtain ⟨name, -⟩ := guard_eq_ok.mp validated
      refine ⟨by simp [Payload.kube], by simp [Payload.kube], ?_⟩
      simpa [Payload.object] using name
  | postDel postDel =>
      obtain ⟨⟨⟩, validated, -⟩ := bind_eq_ok.mp accepted
      obtain ⟨⟨⟩, kube, -⟩ := bind_eq_ok.mp validated
      obtain ⟨version, resource⟩ := kube_validate kube
      refine ⟨version, resource, ?_⟩
      intro name popped
      simp only [Payload.object, Option.mem_toList, Option.map_eq_some_iff] at popped
      obtain ⟨⟨_, cache⟩, popped, rfl⟩ := popped
      have cached : pool.Holds _ := .inl (by
        rw [Schedule.buildDelete_eq_some popped]
        exact List.mem_cons_self)
      exact ne_empty_of_dash (PostDel.generated_of_run run _ cached).dash

/-- The coordinates have no slash and no dot segment. -/
def PlainCoordinates (payload : Payload) (object : List String) : Prop :=
  ∀ element ∈ payload.kube.group :: payload.kube.version :: payload.namespace_ ::
    payload.kube.resource :: object, Plain element

/-- The group and the namespace as both the builders and the canonical path spell
them; they differ in when a group counts as the core group. -/
theorem root_plain (core : Prop) [Decidable core] (plain : PlainCoordinates payload object) :
    ∀ element ∈ (if core then ["api", payload.kube.version]
        else ["apis", payload.kube.group, payload.kube.version]) ++
      (if payload.namespace_ = "" then [] else ["namespaces", payload.namespace_]),
      Plain element := by
  simp only [PlainCoordinates, List.forall_mem_cons] at plain
  obtain ⟨group, version, named, -, -⟩ := plain
  have api : Plain "api" := by decide
  have apis : Plain "apis" := by decide
  have namespaces : Plain "namespaces" := by decide
  simp only [List.forall_mem_append]
  constructor
  · split
    · simp [api, version]
    · simp [apis, group, version]
  · split
    · exact List.forall_mem_nil _
    · simp [namespaces, named]

theorem root_present (core : Prop) [Decidable core] (addressed : Addressed payload object)
    (named : ¬core → payload.kube.group ≠ "") :
    ∀ element ∈ (if core then ["api", payload.kube.version]
        else ["apis", payload.kube.group, payload.kube.version]) ++
      (if payload.namespace_ = "" then [] else ["namespaces", payload.namespace_]),
      element ≠ "" := by
  simp only [List.forall_mem_append]
  constructor
  · split
    · simp [addressed.version]
    · rename_i other
      simp [addressed.version, named other]
  · split
    · exact List.forall_mem_nil _
    · rename_i namespaced
      simp [namespaced]

instance (payload : Payload) (object : List String) :
    Decidable (PlainCoordinates payload object) := inferInstanceAs (Decidable (∀ _ ∈ _, _))

theorem canonicalElements_ordinary (plain : PlainCoordinates payload object)
    (addressed : Addressed payload object) :
    ∀ element ∈ canonicalElements payload.kube payload.namespace_ object,
      Path.Ordinary element.toList := by
  have present := root_present (CoreGroup payload.kube.group) addressed fun other =>
    (not_or.mp other).1
  intro element member
  rcases List.mem_append.mp member with root | below
  · exact (root_plain _ plain element root).ordinary (present element root)
  · refine (plain element (by simp_all)).ordinary ?_
    rcases List.mem_cons.mp below with rfl | named
    · exact addressed.resource
    · exact addressed.object element named

theorem lead_plain (plain : PlainCoordinates payload object) :
    ∀ element ∈ payload.lead, Plain element := by
  have root := root_plain (payload.kube.group = "") plain
  simp only [PlainCoordinates, List.forall_mem_cons] at plain
  obtain ⟨-, version, named, -, -⟩ := plain
  have api : Plain "api" := by decide
  have namespaces : Plain "namespaces" := by decide
  cases payload with
  | put put => simpa [Payload.lead, api, namespaces] using ⟨version, named⟩
  | getPodLog log => simpa [Payload.lead, api, namespaces] using ⟨version, named⟩
  | _ => exact root

/-- The copied path logic of five builders spells the core group as an empty one only. -/
theorem resourcePath_canonical_iff (kube : KubeGroupVersionResource) (namespace_ : String)
    (object : List String) :
    resourcePath kube namespace_ ++ kube.resource :: object =
        canonicalElements kube namespace_ object ↔ kube.group ≠ "core" := by
  by_cases unnamed : kube.group = ""
  · simp [resourcePath, canonicalElements, CoreGroup, unnamed]
  · by_cases core : kube.group = "core"
    · simp [resourcePath, canonicalElements, CoreGroup, core]
    · simp [resourcePath, canonicalElements, CoreGroup, unnamed, core]

/-- Without its empty segments, the path of a build has the canonical elements exactly
if the payload meets what validation does not ask for. -/
theorem filter_lead_iff (accepted : payload.validate = .ok valid)
    (addressed : Addressed payload object) :
    (payload.lead ++ payload.kube.resource :: object).filter (· ≠ "") =
        canonicalElements payload.kube payload.namespace_ object ↔ payload.Canonical := by
  have below : (payload.kube.resource :: object).filter (· ≠ "") =
      payload.kube.resource :: object := by
    simpa [addressed.resource] using addressed.object
  have root : (resourcePath payload.kube payload.namespace_).filter (· ≠ "") =
      resourcePath payload.kube payload.namespace_ := by
    rw [List.filter_eq_self]
    intro element member
    simpa using root_present (payload.kube.group = "") addressed id element member
  have copied : (resourcePath payload.kube payload.namespace_).filter (· ≠ "") ++
      payload.kube.resource :: object = canonicalElements payload.kube payload.namespace_ object ↔
        payload.kube.group ≠ "core" := by
    rw [root]
    exact resourcePath_canonical_iff _ _ _
  rw [List.filter_append, below]
  cases payload with
  | put put =>
      obtain ⟨⟨⟩, validated, -⟩ := bind_eq_ok.mp accepted
      obtain ⟨⟨⟩, -, validated⟩ := bind_eq_ok.mp validated
      obtain ⟨supported, -⟩ := guard_eq_ok.mp validated
      have core : CoreGroup put.kube.group := by
        simp only [CoreGroup]
        grind
      have version : put.kube.version ≠ "" := addressed.version
      by_cases namespaced : put.namespace_ = ""
      · simp [Payload.lead, canonicalElements, Payload.kube, Payload.namespace_, core,
          Payload.Canonical, namespaced, version]
      · simp [Payload.lead, canonicalElements, Payload.kube, Payload.namespace_, core,
          Payload.Canonical, namespaced, version]
  | getPodLog log =>
      obtain ⟨⟨⟩, validated, -⟩ := bind_eq_ok.mp accepted
      obtain ⟨namespaced, -⟩ := guard_eq_ok.mp validated
      simp [Payload.lead, canonicalElements, Payload.kube, Payload.namespace_, CoreGroup,
        Payload.Canonical, namespaced]
  | _ => exact copied

end Coordinates

/-- A build addresses the canonical path exactly if a put has a namespace, or the
payload of another kind does not name the core group. -/
theorem build_canonical_iff {request checked : WeightedRequest} {payload : Payload}
    {builder : RESTRequestBuilder} {maxRetries : Int} {maxAlloc : Nat}
    {actions : List PostDel.Label} {pool : PostDel.Pool} {draws : Draws} {requester : Requester}
    {after : PostDelState} (accepted : request.validate = .ok checked)
    (one : request.payloads = [payload]) (made : newBuilder maxRetries checked = .ok builder)
    (run : PostDel.system.Run actions pool)
    (plain : PlainCoordinates payload (payload.object pool.state draws))
    (built : builder.buildFrom maxAlloc pool.state draws = .ok (requester, after)) :
    absPath requester.call.path = canonicalPath payload.kube payload.namespace_
        (payload.object pool.state draws) ↔ payload.Canonical := by
  obtain ⟨valid, validated, rfl⟩ := validate_single accepted one
  rw [newBuilder_single] at made
  cases made
  have addressed := addressed_of_valid validated run draws
  rw [buildFrom_path validated built, canonicalPath, absPath_eq_absolute_iff]
  · exact filter_lead_iff validated addressed
  · intro segment member
    rcases List.mem_append.mp member with root | below
    · exact lead_plain plain segment root
    · exact plain segment (by simp_all)
  · simp [addressed.resource]
  · exact canonicalElements_ordinary plain addressed
  · simp [canonicalElements]

def corePut : Payload := .put ⟨⟨"core", "v1", "configmaps"⟩, "default", "cm", 10, 10⟩

theorem build_canonical_iff_corePut :
    (WeightedRequest.single 1 corePut).validate = .ok (.single 1 corePut) ∧
      ∃ requester, (payloadBuilder 0 corePut).buildFrom (2 ^ 48) .init ⟨17, "", 0⟩ =
        .ok (requester, .init) ∧
      absPath requester.call.path =
        canonicalPath ⟨"core", "v1", "configmaps"⟩ "default" ["cm-7"] := by
  have accepted : (WeightedRequest.single 1 corePut).validate = .ok (.single 1 corePut) := by
    decide
  have made : newBuilder 0 (.single 1 corePut) = .ok (payloadBuilder 0 corePut) := rfl
  have run : PostDel.system.Run [] .init := .start rfl
  have plain : PlainCoordinates corePut (corePut.object PostDelState.init ⟨17, "", 0⟩) := by
    decide +kernel
  obtain ⟨requester, built⟩ : ∃ requester,
      (payloadBuilder 0 corePut).buildFrom (2 ^ 48) PostDel.Pool.init.state ⟨17, "", 0⟩ =
        .ok (requester, .init) := ⟨_, rfl⟩
  have named : corePut.object PostDelState.init ⟨17, "", 0⟩ = ["cm-7"] := by decide +kernel
  have canonical := (build_canonical_iff accepted rfl made run plain built).mpr
    (by simp [Payload.Canonical])
  exact ⟨accepted, requester, built, named ▸ canonical⟩

def coreGet : Payload := .quorumGet ⟨⟨"core", "v1", "configmaps"⟩, "default", "cm-7"⟩

def clusterPut : Payload := .put ⟨⟨"", "v1", "configmaps"⟩, "", "cm", 10, 10⟩

/-- A get of the object that the put above writes goes to a group named core, and a
put without a namespace to the namespace `configmaps`. -/
theorem coreGet_clusterPut_not_canonical :
    ((WeightedRequest.single 1 coreGet).validate = .ok (.single 1 coreGet) ∧
      ∃ requester, (payloadBuilder 0 coreGet).buildFrom (2 ^ 48) .init ⟨17, "", 0⟩ =
          .ok (requester, .init) ∧
        absPath requester.call.path = "/apis/core/v1/namespaces/default/configmaps/cm-7" ∧
        canonicalPath coreGet.kube coreGet.namespace_ (coreGet.object .init ⟨17, "", 0⟩) =
          "/api/v1/namespaces/default/configmaps/cm-7") ∧
    (WeightedRequest.single 1 clusterPut).validate = .ok (.single 1 clusterPut) ∧
      ∃ requester, (payloadBuilder 0 clusterPut).buildFrom (2 ^ 48) .init ⟨17, "", 0⟩ =
          .ok (requester, .init) ∧
        absPath requester.call.path = "/api/v1/namespaces/configmaps/cm-7" ∧
        canonicalPath clusterPut.kube clusterPut.namespace_
          (clusterPut.object .init ⟨17, "", 0⟩) = "/api/v1/configmaps/cm-7" := by
  refine ⟨⟨by decide, _, rfl, by decide +kernel, by decide +kernel⟩, by decide, _, rfl,
    by decide +kernel, by decide +kernel⟩

end Kperf.Request
