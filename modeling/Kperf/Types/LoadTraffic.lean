import Kperf.Library.Outcome
import Kperf.Library.Text

/-! The load profile and its validation. Numbers that the source keeps in a
`float64` are rationals here. Pointers that may be nil are options; an entry of
the request list may be nil as well, and validating it panics. -/

set_option autoImplicit false

namespace Kperf.Types

open Outcome

/-- `ContentType` is an open string type; two of its values are accepted. -/
structure ContentType where
  name : String
  deriving DecidableEq, Repr

def ContentType.json : ContentType := ⟨"json"⟩

def ContentType.protobuffer : ContentType := ⟨"protobuf"⟩

def ContentType.validate (type : ContentType) : Outcome Unit :=
  if type = .json ∨ type = .protobuffer then .ok ()
  else fail ("unsupported content type " ++ type.name)

structure KubeGroupVersionResource where
  group : String
  version : String
  resource : String
  deriving DecidableEq, Repr

structure RequestGet where
  kube : KubeGroupVersionResource
  namespace_ : String
  name : String
  deriving DecidableEq, Repr

structure RequestList where
  kube : KubeGroupVersionResource
  namespace_ : String
  limit : Int
  selector : String
  fieldSelector : String
  deriving DecidableEq, Repr

structure RequestWatchList where
  kube : KubeGroupVersionResource
  namespace_ : String
  selector : String
  fieldSelector : String
  deriving DecidableEq, Repr

structure RequestPut where
  kube : KubeGroupVersionResource
  namespace_ : String
  name : String
  keySpaceSize : Int
  payloadSize : Int
  deriving DecidableEq, Repr

structure RequestPatch where
  kube : KubeGroupVersionResource
  namespace_ : String
  name : String
  keySpaceSize : Int
  patchType : String
  body : String
  deriving DecidableEq, Repr

structure RequestGetPodLog where
  namespace_ : String
  name : String
  container : String
  tailLines : Option Int
  limitBytes : Option Int
  deriving DecidableEq, Repr

structure RequestPostDel where
  kube : KubeGroupVersionResource
  namespace_ : String
  deleteRatio : ℚ
  payloadSize : Int
  deriving DecidableEq, Repr

structure WeightedRequest where
  shares : Int
  staleList : Option RequestList
  quorumList : Option RequestList
  watchList : Option RequestWatchList
  staleGet : Option RequestGet
  quorumGet : Option RequestGet
  put : Option RequestPut
  patch : Option RequestPatch
  getPodLog : Option RequestGetPodLog
  postDel : Option RequestPostDel
  deriving DecidableEq, Repr

structure LoadProfileSpec where
  rate : ℚ
  total : Int
  duration : Int
  conns : Int
  client : Int
  contentType : ContentType
  disableHTTP2 : Bool
  maxRetries : Int
  requests : List (Option WeightedRequest)
  deriving DecidableEq, Repr

structure LoadProfile where
  version : Int
  description : String
  specs : List LoadProfileSpec
  deriving DecidableEq, Repr

def KubeGroupVersionResource.validate (kube : KubeGroupVersionResource) : Outcome Unit :=
  if kube.version = "" then fail "version is required"
  else if kube.resource = "" then fail "resource is required"
  else .ok ()

def RequestList.validate (request : RequestList) (stale : Bool) : Outcome Unit := do
  wrap "kube metadata: " request.kube.validate
  if request.limit < 0 then fail "limit must >= 0"
  else if stale ∧ request.limit ≠ 0 then
    fail ("stale list doesn't support pagination option: " ++
      "https://github.com/kubernetes/kubernetes/issues/108003")
  else .ok ()

def RequestWatchList.validate (request : RequestWatchList) : Outcome Unit :=
  wrap "kube metadata: " request.kube.validate

def RequestGet.validate (request : RequestGet) : Outcome Unit := do
  wrap "kube metadata: " request.kube.validate
  if request.name = "" then fail "name is required" else .ok ()

def RequestPut.validate (request : RequestPut) : Outcome Unit := do
  wrap "kube metadata: " request.kube.validate
  if (request.kube.group ≠ "" ∧ request.kube.group ≠ "core") ∨ request.kube.version ≠ "v1" ∨
      request.kube.resource ≠ "configmaps" then
    fail ("put currently only supports core/v1 configmaps, got group=" ++
      Format.quote request.kube.group ++ " version=" ++ Format.quote request.kube.version ++
      " resource=" ++ Format.quote request.kube.resource)
  else if request.name = "" then fail "name pattern is required"
  else if request.keySpaceSize ≤ 0 then fail "keySpaceSize must > 0"
  else if request.payloadSize ≤ 0 then fail "payloadSize must > 0"
  else .ok ()

def RequestGetPodLog.validate (request : RequestGetPodLog) : Outcome Unit :=
  if request.namespace_ = "" then fail "namespace is required"
  else if request.name = "" then fail "name is required"
  else .ok ()

def getPatchType (patchType : String) : Option String :=
  if patchType = "json" then some "application/json-patch+json"
  else if patchType = "merge" then some "application/merge-patch+json"
  else if patchType = "strategic-merge" then some "application/strategic-merge-patch+json"
  else none

/-- Validation trims the body in place, so the checked request is returned. -/
def RequestPatch.validate (request : RequestPatch) : Outcome RequestPatch := do
  wrap "kube metadata: " request.kube.validate
  if request.name = "" then fail "name is required"
  else if request.body = "" then fail "body is required"
  else if (getPatchType request.patchType).isNone then
    fail ("unknown patch type: " ++ request.patchType ++
      " (valid types: json, merge, strategic-merge)")
  else
    let trimmed := Text.trimSpace request.body
    if Text.Json.valid trimmed then .ok { request with body := trimmed }
    else fail ("invalid JSON in patch body: " ++ Format.quote request.body)

def RequestPostDel.validate (request : RequestPostDel) : Outcome Unit := do
  wrap "kube metadata: " request.kube.validate
  if request.deleteRatio < 0 ∨ request.deleteRatio > 1 / 2 then
    fail ("delete ratio must be between 0 and 0.5: " ++ Format.float request.deleteRatio ++
      ", create proportion should be greater than delete")
  else if request.payloadSize < 0 then
    fail ("payloadSize must >= 0: " ++ toString request.payloadSize)
  else .ok ()

/-- The first payload in this order is validated, whatever else is set. -/
def WeightedRequest.validate (request : WeightedRequest) : Outcome WeightedRequest := do
  if request.shares < 0 then
    fail ("shares(" ++ toString request.shares ++ ") requires >= 0")
  else
    match request.staleList, request.quorumList, request.watchList, request.staleGet,
        request.quorumGet, request.put, request.patch, request.getPodLog, request.postDel with
    | some list, _, _, _, _, _, _, _, _ => list.validate true; .ok request
    | _, some list, _, _, _, _, _, _, _ => list.validate false; .ok request
    | _, _, some watch, _, _, _, _, _, _ => watch.validate; .ok request
    | _, _, _, some get, _, _, _, _, _ => get.validate; .ok request
    | _, _, _, _, some get, _, _, _, _ => get.validate; .ok request
    | _, _, _, _, _, some put, _, _, _ => put.validate; .ok request
    | _, _, _, _, _, _, some patch, _, _ => do
        let checked ← patch.validate
        .ok { request with patch := some checked }
    | _, _, _, _, _, _, _, some log, _ => log.validate; .ok request
    | _, _, _, _, _, _, _, _, some postDel => postDel.validate; .ok request
    | _, _, _, _, _, _, _, _, _ => fail "empty request value"

def validateRequests (index : Nat) :
    List (Option WeightedRequest) → Outcome (List (Option WeightedRequest))
  | [] => .ok []
  | none :: _ => panics "runtime error: invalid memory address or nil pointer dereference"
  | some request :: rest => do
      let checked ← wrap ("idx: " ++ toString index ++ " request: ") request.validate
      let others ← validateRequests (index + 1) rest
      .ok (some checked :: others)

def LoadProfileSpec.validate (spec : LoadProfileSpec) : Outcome LoadProfileSpec := do
  if spec.conns ≤ 0 then fail ("conns requires > 0: " ++ toString spec.conns)
  else if spec.rate < 0 then fail ("rate requires >= 0: " ++ Format.float spec.rate)
  else if spec.total ≤ 0 ∧ spec.duration ≤ 0 then
    fail ("total requires > 0: " ++ toString spec.total ++ " or duration > 0s: " ++
      toString spec.duration)
  else if spec.client ≤ 0 then fail ("client requires > 0: " ++ toString spec.client)
  else
    spec.contentType.validate
    let checked ← validateRequests 0 spec.requests
    .ok { spec with requests := checked }

def validateSpecs (index : Nat) : List LoadProfileSpec → Outcome (List LoadProfileSpec)
  | [] => .ok []
  | spec :: rest => do
      let checked ← wrap ("specs[" ++ toString index ++ "]: ") spec.validate
      let others ← validateSpecs (index + 1) rest
      .ok (checked :: others)

def LoadProfile.validate (profile : LoadProfile) : Outcome LoadProfile :=
  if profile.version ≠ 1 then fail "version should be 1"
  else if profile.specs.length = 0 then fail "specs must be provided"
  else do
    let checked ← validateSpecs 0 profile.specs
    .ok { profile with specs := checked }

end Kperf.Types
