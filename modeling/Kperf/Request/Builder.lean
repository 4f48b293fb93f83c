import Kperf.Library.Path
import Kperf.Types.LoadTraffic

/-! Request builders. `Build` is a function of the builder and of the values it
draws: the number from `rand.Int`, the random payload and the clock. The REST
client that turns a call into a URL is outside the repository. -/

set_option autoImplicit false

namespace Kperf.Request

open Types Outcome

def randInt (bound : Int) (drawn : Nat) : Outcome Int :=
  if bound ≤ 0 then panics "crypto/rand: argument to Int is <= 0"
  else .ok (drawn % bound)

/-- The FIFO of resource names that one builder has created. -/
structure Cache where
  items : List String
  deriving DecidableEq, Repr

namespace Cache

def init : Cache := ⟨[]⟩

def pop (cache : Cache) : Option (String × Cache) :=
  match cache.items with
  | [] => none
  | name :: rest => some (name, ⟨rest⟩)

def push (cache : Cache) (name : String) : Cache := ⟨cache.items ++ [name]⟩

def len (cache : Cache) : Nat := cache.items.length

end Cache

inductive Options where
  | none
  | get (resourceVersion : String)
  | list (labelSelector fieldSelector resourceVersion : String) (limit : Int)
  | watchList (labelSelector fieldSelector : String)
  | podLog (container : String) (tailLines limitBytes : Option Int)
  deriving DecidableEq, Repr

inductive Body where
  | none
  | text (content : String)
  | configMap (name namespace_ payload : String)
  | template (resource name namespace_ payload : String)
  deriving DecidableEq, Repr

structure Call where
  verb : String
  path : List String
  options : Options
  patchType : String
  body : Body
  maxRetries : Int
  deriving DecidableEq, Repr

inductive Operation where
  | post
  | delete
  deriving DecidableEq, Repr

def Operation.name : Operation → String
  | .post => "POST"
  | .delete => "DELETE"

inductive RequesterKind where
  | discard
  | watchList
  | postDel (operation : Operation) (name : String)
  deriving DecidableEq, Repr

structure Requester where
  method : String
  call : Call
  kind : RequesterKind
  deriving DecidableEq, Repr

structure URL where
  base : String
  path : String
  rawQuery : String
  deriving DecidableEq, Repr

def URL.string (url : URL) : String :=
  url.base ++ url.path ++ (if url.rawQuery = "" then "" else "?" ++ url.rawQuery)

structure RESTClient where
  url : Call → URL

/-- The URL under which a request is counted: the last element of the path of
a DELETE, PATCH or PUT is an object name and is masked. -/
def Requester.maskedURL (requester : Requester) (client : RESTClient) : URL :=
  let original := client.url requester.call
  if requester.method = "DELETE" ∨ requester.method = "PATCH" ∨ requester.method = "PUT" then
    { original with path := Path.join [Path.dir original.path, ":name"] }
  else original

/-- `/api/v1` or `/apis/group/version`, with the namespace if there is one. -/
def resourcePath (kube : KubeGroupVersionResource) (namespace_ : String) : List String :=
  (if kube.group = "" then ["api", kube.version] else ["apis", kube.group, kube.version]) ++
    (if namespace_ = "" then [] else ["namespaces", namespace_])

def plainCall (verb : String) (path : List String) (options : Options) (maxRetries : Int) :
    Call :=
  ⟨verb, path, options, "", .none, maxRetries⟩

structure GetBuilder where
  src : RequestGet
  resourceVersion : String
  maxRetries : Int
  deriving DecidableEq, Repr

def GetBuilder.build (builder : GetBuilder) : Requester :=
  { method := "GET"
    call := plainCall "GET"
      (resourcePath builder.src.kube builder.src.namespace_ ++
        [builder.src.kube.resource, builder.src.name])
      (.get builder.resourceVersion) builder.maxRetries
    kind := .discard }

structure ListBuilder where
  src : RequestList
  resourceVersion : String
  maxRetries : Int
  deriving DecidableEq, Repr

def ListBuilder.build (builder : ListBuilder) : Requester :=
  { method := "LIST"
    call := plainCall "GET"
      (resourcePath builder.src.kube builder.src.namespace_ ++ [builder.src.kube.resource])
      (.list builder.src.selector builder.src.fieldSelector builder.resourceVersion
        builder.src.limit)
      builder.maxRetries
    kind := .discard }

structure WatchListBuilder where
  src : RequestWatchList
  maxRetries : Int
  deriving DecidableEq, Repr

def WatchListBuilder.build (builder : WatchListBuilder) : Requester :=
  { method := "WATCHLIST"
    call := plainCall "GET"
      (resourcePath builder.src.kube builder.src.namespace_ ++ [builder.src.kube.resource])
      (.watchList builder.src.selector builder.src.fieldSelector) builder.maxRetries
    kind := .watchList }

structure GetPodLogBuilder where
  src : RequestGetPodLog
  maxRetries : Int
  deriving DecidableEq, Repr

def GetPodLogBuilder.build (builder : GetPodLogBuilder) : Requester :=
  { method := "POD_LOG"
    call := plainCall "GET"
      ["api", "v1", "namespaces", builder.src.namespace_, "pods", builder.src.name, "log"]
      (.podLog builder.src.container builder.src.tailLines builder.src.limitBytes)
      builder.maxRetries
    kind := .discard }

structure PatchBuilder where
  src : RequestPatch
  patchType : String
  maxRetries : Int
  deriving DecidableEq, Repr

def PatchBuilder.build (builder : PatchBuilder) (drawn : Nat) : Outcome Requester := do
  let suffix ← randInt builder.src.keySpaceSize drawn
  .ok
    { method := "PATCH"
      call :=
        { verb := "PATCH"
          path := resourcePath builder.src.kube builder.src.namespace_ ++
            [builder.src.kube.resource, builder.src.name ++ "-" ++ toString suffix]
          options := .none
          patchType := builder.patchType
          body := .text builder.src.body
          maxRetries := builder.maxRetries }
      kind := .discard }

structure PutBuilder where
  src : RequestPut
  maxRetries : Int
  deriving DecidableEq, Repr

/-- A PUT always addresses the core group and a namespaced path. -/
def PutBuilder.build (builder : PutBuilder) (drawn : Nat) (payload : String) :
    Outcome Requester := do
  let suffix ← randInt builder.src.keySpaceSize drawn
  let finalName := builder.src.name ++ "-" ++ toString suffix
  .ok
    { method := "PUT"
      call :=
        { verb := "PUT"
          path := ["api", builder.src.kube.version, "namespaces", builder.src.namespace_,
            builder.src.kube.resource, finalName]
          options := .none
          patchType := ""
          body := .configMap finalName builder.src.namespace_ payload
          maxRetries := builder.maxRetries }
      kind := .discard }

structure PostDelBuilder where
  src : RequestPostDel
  maxRetries : Int
  deriving DecidableEq, Repr

/-- The fields of a `requestPostDelBuilder` that `Build` and `Do` change. -/
structure PostDelState where
  cache : Cache
  resourceCounter : Int
  deriving DecidableEq, Repr

def PostDelState.init : PostDelState := ⟨.init, 0⟩

def renderTemplate (resource name namespace_ payload : String) : Outcome Body :=
  if resource = "pods" then .ok (.template resource name namespace_ payload)
  else fail ("unsupported resource type: " ++ resource)

namespace PostDelBuilder

variable (builder : PostDelBuilder)

/-- The draw decides for DELETE with the probability of the delete ratio. -/
def shouldDelete (drawn : Nat) : Bool :=
  decide (((drawn % 1000 : Nat) : ℚ) / 1000 < builder.src.deleteRatio)

def deleteRequester (name : String) : Requester :=
  { method := "DELETE"
    call := plainCall "DELETE"
      (resourcePath builder.src.kube builder.src.namespace_ ++
        [builder.src.kube.resource, name])
      .none builder.maxRetries
    kind := .postDel .delete name }

/-- The first half of `Build`: a name to delete with the cache it left. Without
a name, or when the draw is against it, `Build` goes on to create an object. -/
def buildDelete (state : PostDelState) (drawn : Nat) : Option (String × Cache) :=
  if builder.shouldDelete drawn then state.cache.pop else none

def resourceName (timestamp counter : Int) : String :=
  toString timestamp ++ "-" ++ toString counter

def postRequester (name : String) (body : Body) : Requester :=
  { method := "POST"
    call :=
      { verb := "POST"
        path := resourcePath builder.src.kube builder.src.namespace_ ++
          [builder.src.kube.resource]
        options := .none
        patchType := ""
        body
        maxRetries := builder.maxRetries }
    kind := .postDel .post name }

def nextCounter (state : PostDelState) : Int := addInt64 state.resourceCounter 1

def buildPost (state : PostDelState) (timestamp : Int) (payload : String) :
    Outcome Requester :=
  let name := resourceName timestamp (nextCounter state)
  match renderTemplate builder.src.kube.resource name builder.src.namespace_ payload with
  | .ok body => .ok (builder.postRequester name body)
  | .error (.error message) =>
      panics ("failed to render " ++ builder.src.kube.resource ++ " template: " ++ message)
  | .error fault => .error fault

end PostDelBuilder

/-- `PostDelDiscardRequester.Do` after the request: the name of a created
object is cached, and that of an object whose deletion failed is put back. -/
def Cache.settle (cache : Cache) (operation : Operation) (name : String) (failed : Bool) :
    Cache :=
  match operation, failed with
  | .post, false => cache.push name
  | .delete, true => cache.push name
  | _, _ => cache

inductive RESTRequestBuilder where
  | get (builder : GetBuilder)
  | list (builder : ListBuilder)
  | watchList (builder : WatchListBuilder)
  | getPodLog (builder : GetPodLogBuilder)
  | patch (builder : PatchBuilder)
  | put (builder : PutBuilder)
  | postDel (builder : PostDelBuilder)
  deriving DecidableEq, Repr

/-- `Build` of every builder but `postDel`, which also changes its own state. -/
def RESTRequestBuilder.build (drawn : Nat) (payload : String) :
    RESTRequestBuilder → Option (Outcome Requester)
  | .get builder => some (.ok builder.build)
  | .list builder => some (.ok builder.build)
  | .watchList builder => some (.ok builder.build)
  | .getPodLog builder => some (.ok builder.build)
  | .patch builder => some (builder.build drawn)
  | .put builder => some (builder.build drawn payload)
  | .postDel _ => none

def emptyRequestText (request : WeightedRequest) : String :=
  "&\x7bShares:" ++ toString request.shares ++ " StaleList:<nil> QuorumList:<nil> " ++
    "WatchList:<nil> StaleGet:<nil> QuorumGet:<nil> Put:<nil> Patch:<nil> GetPodLog:<nil> " ++
    "PostDel:<nil>\x7d"

/-- The first payload in this order makes the builder. -/
def newBuilder (maxRetries : Int) (request : WeightedRequest) : Outcome RESTRequestBuilder :=
  match request.staleList, request.quorumList, request.watchList, request.staleGet,
      request.quorumGet, request.getPodLog, request.patch, request.postDel, request.put with
  | some list, _, _, _, _, _, _, _, _ => .ok (.list ⟨list, "0", maxRetries⟩)
  | _, some list, _, _, _, _, _, _, _ => .ok (.list ⟨list, "", maxRetries⟩)
  | _, _, some watch, _, _, _, _, _, _ => .ok (.watchList ⟨watch, maxRetries⟩)
  | _, _, _, some get, _, _, _, _, _ => .ok (.get ⟨get, "0", maxRetries⟩)
  | _, _, _, _, some get, _, _, _, _ => .ok (.get ⟨get, "", maxRetries⟩)
  | _, _, _, _, _, some log, _, _, _ => .ok (.getPodLog ⟨log, maxRetries⟩)
  | _, _, _, _, _, _, some patch, _, _ =>
      .ok (.patch ⟨patch, (getPatchType patch.patchType).getD "", maxRetries⟩)
  | _, _, _, _, _, _, _, some postDel, _ => .ok (.postDel ⟨postDel, maxRetries⟩)
  | _, _, _, _, _, _, _, _, some put => .ok (.put ⟨put, maxRetries⟩)
  | _, _, _, _, _, _, _, _, _ => fail ("unknown request type: " ++ emptyRequestText request)

structure WeightedRandomRequests where
  shares : List Int
  reqBuilders : List RESTRequestBuilder
  deriving DecidableEq, Repr

def newBuilders (maxRetries : Int) :
    List (Option WeightedRequest) → Outcome WeightedRandomRequests
  | [] => .ok ⟨[], []⟩
  | none :: _ => panics "runtime error: invalid memory address or nil pointer dereference"
  | some request :: rest => do
      let builder ← newBuilder maxRetries request
      let others ← newBuilders maxRetries rest
      .ok ⟨request.shares :: others.shares, builder :: others.reqBuilders⟩

def newWeightedRandomRequests (spec : LoadProfileSpec) : Outcome WeightedRandomRequests := do
  let checked ← wrap "invalid load profile spec: " spec.validate
  newBuilders checked.maxRetries checked.requests

def pickIndex : List Int → Int → Outcome Nat
  | [], _ => panics "unreachable"
  | share :: rest, drawn =>
      if drawn < share then .ok 0 else (pickIndex rest (drawn - share)).map (· + 1)

/-- `randomPick` returns the position of the builder. -/
def WeightedRandomRequests.randomPick (requests : WeightedRandomRequests) (drawn : Nat) :
    Outcome Nat := do
  let rnd ← randInt (requests.shares.foldl addInt64 0) drawn
  pickIndex requests.shares rnd

end Kperf.Request
