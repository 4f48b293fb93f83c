import Kperf.Request.Builder
import Mathlib.Algebra.Order.BigOperators.Group.List

/-! What an accepted spec generates. Validation looks at each request alone and
at fewer of its fields than the builders use, so a sum of shares, a key space or
a template that is missing only shows when a request is picked or built. -/

set_option autoImplicit false

namespace Kperf.Types

open Outcome

inductive Payload where
  | staleList (request : RequestList)
  | quorumList (request : RequestList)
  | watchList (request : RequestWatchList)
  | staleGet (request : RequestGet)
  | quorumGet (request : RequestGet)
  | put (request : RequestPut)
  | patch (request : RequestPatch)
  | getPodLog (request : RequestGetPodLog)
  | postDel (request : RequestPostDel)
  deriving DecidableEq, Repr

def WeightedRequest.empty (shares : Int) : WeightedRequest :=
  ⟨shares, none, none, none, none, none, none, none, none, none⟩

/-- A request with exactly one payload. -/
def WeightedRequest.single (shares : Int) : Payload → WeightedRequest
  | .staleList request => { empty shares with staleList := some request }
  | .quorumList request => { empty shares with quorumList := some request }
  | .watchList request => { empty shares with watchList := some request }
  | .staleGet request => { empty shares with staleGet := some request }
  | .quorumGet request => { empty shares with quorumGet := some request }
  | .put request => { empty shares with put := some request }
  | .patch request => { empty shares with patch := some request }
  | .getPodLog request => { empty shares with getPodLog := some request }
  | .postDel request => { empty shares with postDel := some request }

/-- The payloads that are set; "only one of request types may be specified". -/
def WeightedRequest.payloads (request : WeightedRequest) : List Payload :=
  (request.staleList.map .staleList).toList ++ (request.quorumList.map .quorumList).toList ++
    (request.watchList.map .watchList).toList ++ (request.staleGet.map .staleGet).toList ++
    (request.quorumGet.map .quorumGet).toList ++ (request.put.map .put).toList ++
    (request.patch.map .patch).toList ++ (request.getPodLog.map .getPodLog).toList ++
    (request.postDel.map .postDel).toList

theorem WeightedRequest.eq_single {request : WeightedRequest} {payload : Payload}
    (one : request.payloads = [payload]) : request = .single request.shares payload := by
  obtain ⟨shares, staleList, quorumList, watchList, staleGet, quorumGet, put, patch, getPodLog,
    postDel⟩ := request
  simp only [payloads, List.append_eq_singleton_iff, List.append_eq_nil_iff,
    Option.toList_eq_nil_iff, Option.toList_eq_singleton_iff, Option.map_eq_none_iff,
    Option.map_eq_some_iff] at one
  rcases one with one | one | one | one | one | one | one | one |
    ⟨⟨value, rfl, rfl⟩, rfl⟩
  any_goals obtain ⟨value, rfl, rfl⟩ := one.2
  all_goals simp [single, empty, *]

theorem WeightedRequest.validate_ok {request checked : WeightedRequest}
    (accepted : request.validate = .ok checked) :
    0 ≤ request.shares ∧ checked.shares = request.shares ∧ checked.payloads ≠ [] := by
  unfold WeightedRequest.validate at accepted
  split at accepted
  · cases accepted
  · rename_i signed
    refine ⟨Int.not_lt.mp signed, ?_⟩
    split at accepted
    case h_7 =>
      obtain ⟨trimmed, -, same⟩ := bind_eq_ok.mp accepted
      cases same
      simp [payloads]
    case h_10 => cases accepted
    all_goals
      obtain ⟨-, -, same⟩ := bind_eq_ok.mp accepted
      cases same
      simp [payloads, *]

theorem RequestPatch.validate_ok {request checked : RequestPatch}
    (accepted : request.validate = .ok checked) :
    checked.keySpaceSize = request.keySpaceSize := by
  obtain ⟨-, -, accepted⟩ := bind_eq_ok.mp accepted
  obtain ⟨-, accepted⟩ := guard_eq_ok.mp accepted
  obtain ⟨-, accepted⟩ := guard_eq_ok.mp accepted
  split at accepted
  · cases accepted
  dsimp only at accepted
  split at accepted
  · cases accepted
    rfl
  · cases accepted

theorem RequestPut.validate_ok {request : RequestPut} (accepted : request.validate = .ok ()) :
    0 < request.keySpaceSize := by
  obtain ⟨-, -, accepted⟩ := bind_eq_ok.mp accepted
  obtain ⟨-, accepted⟩ := guard_eq_ok.mp accepted
  obtain ⟨-, accepted⟩ := guard_eq_ok.mp accepted
  obtain ⟨positive, -⟩ := guard_eq_ok.mp accepted
  exact Int.not_le.mp positive

theorem LoadProfileSpec.validate_ok {spec checked : LoadProfileSpec}
    (accepted : spec.validate = .ok checked) :
    0 < spec.client ∧ ∃ requests, validateRequests 0 spec.requests = .ok requests ∧
      checked = { spec with requests } := by
  obtain ⟨-, accepted⟩ := guard_eq_ok.mp accepted
  obtain ⟨-, accepted⟩ := guard_eq_ok.mp accepted
  obtain ⟨-, accepted⟩ := guard_eq_ok.mp accepted
  obtain ⟨client, accepted⟩ := guard_eq_ok.mp accepted
  obtain ⟨-, -, accepted⟩ := bind_eq_ok.mp accepted
  obtain ⟨requests, validated, same⟩ := bind_eq_ok.mp accepted
  cases same
  exact ⟨Int.not_le.mp client, requests, validated, rfl⟩

end Kperf.Types

namespace Kperf.Request

open Types Outcome

theorem newBuilder_ok {request : WeightedRequest} (maxRetries : Int)
    (some : request.payloads ≠ []) : ∃ builder, newBuilder maxRetries request = .ok builder := by
  unfold newBuilder
  split
  case h_10 => simp_all [WeightedRequest.payloads, ← Option.eq_none_iff_forall_ne_some]
  all_goals exact ⟨_, rfl⟩

def share (request : Option WeightedRequest) : Int := request.elim 0 (·.shares)

/-- Builders next to the shares of the requests they were made from. -/
structure Builds (requests : List (Option WeightedRequest)) (built : WeightedRandomRequests) :
    Prop where
  shares : built.shares = requests.map share
  signed : ∀ share ∈ built.shares, 0 ≤ share
  paired : built.reqBuilders.length = built.shares.length

theorem newBuilders_ok {index : Nat} {requests checked : List (Option WeightedRequest)}
    (maxRetries : Int) (accepted : validateRequests index requests = .ok checked) :
    ∃ built, newBuilders maxRetries checked = .ok built ∧ Builds requests built := by
  induction requests generalizing index checked with
  | nil =>
      cases accepted
      exact ⟨⟨[], []⟩, rfl, rfl, nofun, rfl⟩
  | cons request rest ih =>
      cases request with
      | none => cases accepted
      | some request =>
          obtain ⟨valid, one, accepted⟩ := bind_eq_ok.mp accepted
          obtain ⟨others, validated, same⟩ := bind_eq_ok.mp accepted
          cases same
          obtain ⟨signed, kept, payload⟩ := WeightedRequest.validate_ok (wrap_eq_ok.mp one)
          obtain ⟨builder, made⟩ := newBuilder_ok maxRetries payload
          obtain ⟨built, others, builds⟩ := ih validated
          refine ⟨⟨valid.shares :: built.shares, builder :: built.reqBuilders⟩, ?_, ?_, ?_, ?_⟩
          · simp only [newBuilders, made, others]
            rfl
          · simp [kept, share, builds.shares]
          · intro share member
            cases List.mem_cons.mp member with
            | inl first => rw [first, kept]; exact signed
            | inr later => exact builds.signed share later
          · simp [builds.paired]

theorem newWeightedRandomRequests_ok {spec checked : LoadProfileSpec}
    (accepted : spec.validate = .ok checked) :
    ∃ built, newWeightedRandomRequests spec = .ok built ∧ Builds spec.requests built := by
  obtain ⟨-, requests, validated, rfl⟩ := LoadProfileSpec.validate_ok accepted
  obtain ⟨built, made, builds⟩ := newBuilders_ok spec.maxRetries validated
  refine ⟨built, ?_, builds⟩
  rw [newWeightedRandomRequests, accepted]
  exact made

theorem pickIndex_ok {shares : List Int} {drawn : Int} (signed : 0 ≤ drawn)
    (below : drawn < shares.sum) :
    ∃ index share, pickIndex shares drawn = .ok index ∧ shares[index]? = some share ∧
      0 < share := by
  induction shares generalizing drawn with
  | nil => exact absurd below (Int.not_lt.mpr signed)
  | cons share rest ih =>
      unfold pickIndex
      split
      · rename_i here
        exact ⟨0, share, rfl, rfl, Int.lt_of_le_of_lt signed here⟩
      · rename_i beyond
        rw [List.sum_cons] at below
        have left : 0 ≤ drawn - share := by omega
        obtain ⟨index, found, picked, listed, positive⟩ := ih left (by omega)
        exact ⟨index + 1, found, by rw [picked]; rfl, listed, positive⟩

/-- The share list can be drawn from: its sum, as an `int`, is positive. -/
def Drawable (shares : List Int) : Prop :=
  0 < shares.sum % 2 ^ 64 ∧ shares.sum % 2 ^ 64 < 2 ^ 63

instance (shares : List Int) : Decidable (Drawable shares) :=
  inferInstanceAs (Decidable (_ ∧ _))

theorem wrappedSum_pos_iff (shares : List Int) :
    0 < shares.foldl addInt64 0 ↔ Drawable shares := by
  have wrapped := foldl_addInt64 shares 0
  rw [Int.zero_bmod, Int.zero_add] at wrapped
  rw [wrapped, Drawable, Int.bmod_def]
  omega

theorem wrappedSum_le {shares : List Int} (signed : ∀ share ∈ shares, 0 ≤ share)
    (drawable : Drawable shares) : shares.foldl addInt64 0 ≤ shares.sum := by
  have wrapped := foldl_addInt64 shares 0
  rw [Int.zero_bmod, Int.zero_add] at wrapped
  have total := List.sum_nonneg signed
  obtain ⟨positive, small⟩ := drawable
  rw [wrapped, Int.bmod_def]
  omega

/-- The spec yields a generator, and every draw picks one of its builders, one
with a positive share. -/
def Generates (spec : LoadProfileSpec) : Prop :=
  ∃ requests, newWeightedRandomRequests spec = .ok requests ∧
    ∀ drawn, ∃ index builder share, requests.randomPick drawn = .ok index ∧
      requests.reqBuilders[index]? = some builder ∧ requests.shares[index]? = some share ∧
      0 < share

theorem Builds.randomPick_ok {requests : List (Option WeightedRequest)}
    {built : WeightedRandomRequests} (builds : Builds requests built)
    (drawable : Drawable built.shares) (drawn : Nat) :
    ∃ index builder share, built.randomPick drawn = .ok index ∧
      built.reqBuilders[index]? = some builder ∧ built.shares[index]? = some share ∧
      0 < share := by
  have positive := (wrappedSum_pos_iff built.shares).mpr drawable
  have bound := wrappedSum_le builds.signed drawable
  have signed := Int.emod_nonneg drawn (Int.ne_of_gt positive)
  have below := Int.emod_lt_of_pos drawn positive
  obtain ⟨index, share, picked, listed, weighs⟩ :=
    pickIndex_ok signed (Int.lt_of_lt_of_le below bound)
  obtain ⟨inside, -⟩ := List.getElem?_eq_some_iff.mp listed
  rw [← builds.paired] at inside
  refine ⟨index, _, share, ?_, List.getElem?_eq_getElem inside, listed, weighs⟩
  rw [WeightedRandomRequests.randomPick, randInt, if_neg (Int.not_le.mpr positive)]
  exact picked

theorem accepted_generates_iff {spec checked : LoadProfileSpec}
    (accepted : spec.validate = .ok checked) :
    Generates spec ↔ Drawable (spec.requests.map share) := by
  obtain ⟨built, made, builds⟩ := newWeightedRandomRequests_ok accepted
  rw [← builds.shares]
  constructor
  · intro generates
    obtain ⟨requests, same, picks⟩ := generates
    cases made.symm.trans same
    obtain ⟨index, -, -, picked, -⟩ := picks 0
    rw [← wrappedSum_pos_iff]
    by_contra exhausted
    rw [WeightedRandomRequests.randomPick, randInt, if_pos (Int.not_lt.mp exhausted)] at picked
    cases picked
  · intro drawable
    exact ⟨built, made, builds.randomPick_ok drawable⟩

def nodeReads (shares : Int) : LoadProfileSpec where
  rate := 0
  total := 10
  duration := 0
  conns := 1
  client := 1
  contentType := .json
  disableHTTP2 := false
  maxRetries := 0
  requests := [some (.single shares (.staleGet ⟨⟨"", "v1", "nodes"⟩, "", "node"⟩))]

theorem accepted_generates_iff_nodeReads :
    (nodeReads 1000).validate = .ok (nodeReads 1000) ∧ Generates (nodeReads 1000) :=
  ⟨rfl, (accepted_generates_iff rfl).mpr (by decide)⟩

/-- A request without shares is accepted, and the first draw panics. -/
theorem zeroShares_not_generates :
    (nodeReads 0).validate = .ok (nodeReads 0) ∧ ¬ Generates (nodeReads 0) := by
  refine ⟨rfl, ?_⟩
  intro generates
  obtain ⟨requests, made, picks⟩ := generates
  cases made
  obtain ⟨index, -, -, picked, -⟩ := picks 0
  cases picked

section Build

/-- What one call of `Build` takes from outside: the number drawn by `rand.Int`,
the sampled payload and the clock. -/
structure Draws where
  number : Nat
  payload : String
  timestamp : Int
  deriving DecidableEq, Repr

/-- No slice is longer than the runtime can allocate at all. -/
def randomPayload (maxAlloc : Nat) (size : Int) (sampled : String) : Outcome String :=
  if size ≤ 0 then .ok ""
  else if maxAlloc < size then panics "runtime error: makeslice: len out of range"
  else .ok sampled

/-- One whole call of `Build`. The state is that of a postDel builder, as earlier
calls and the requests made from them left it. -/
def RESTRequestBuilder.buildFrom (maxAlloc : Nat) (state : PostDelState) (draws : Draws) :
    RESTRequestBuilder → Outcome (Requester × PostDelState)
  | .get builder => .ok (builder.build, state)
  | .list builder => .ok (builder.build, state)
  | .watchList builder => .ok (builder.build, state)
  | .getPodLog builder => .ok (builder.build, state)
  | .patch builder => do
      let requester ← builder.build draws.number
      .ok (requester, state)
  | .put builder => do
      let _ ← randInt builder.src.keySpaceSize draws.number
      let payload ← randomPayload maxAlloc builder.src.payloadSize draws.payload
      let requester ← builder.build draws.number payload
      .ok (requester, state)
  | .postDel builder =>
      match builder.buildDelete state draws.number with
      | some (name, cache) => .ok (builder.deleteRequester name, { state with cache })
      | none => do
          let payload ← randomPayload maxAlloc builder.src.payloadSize draws.payload
          let requester ← builder.buildPost state draws.timestamp payload
          .ok (requester, { state with
            resourceCounter := PostDelBuilder.nextCounter state })

def RESTRequestBuilder.Total (maxAlloc : Nat) (builder : RESTRequestBuilder) : Prop :=
  ∀ state draws, ∃ built, builder.buildFrom maxAlloc state draws = .ok built

/-- What `Build` needs of a payload and validation does not ask for. -/
def Buildable (maxAlloc : Nat) : Payload → Prop
  | .patch request => 0 < request.keySpaceSize
  | .put request => request.payloadSize ≤ maxAlloc
  | .postDel request => request.kube.resource = "pods" ∧ request.payloadSize ≤ maxAlloc
  | _ => True

theorem randInt_ok_iff (bound : Int) (drawn : Nat) :
    (∃ suffix, randInt bound drawn = .ok suffix) ↔ 0 < bound := by
  unfold randInt
  split
  · rename_i exhausted
    simp [panics, Int.not_lt.mpr exhausted]
  · rename_i positive
    simp [Int.not_le.mp positive]

theorem randomPayload_ok_iff (maxAlloc : Nat) (size : Int) (sampled : String) :
    (∃ payload, randomPayload maxAlloc size sampled = .ok payload) ↔ size ≤ maxAlloc := by
  unfold randomPayload
  split
  · rename_i empty
    simp [Int.le_trans empty (Int.natCast_nonneg maxAlloc)]
  split
  · rename_i large
    simp [panics, Int.not_le.mpr large]
  · rename_i fits
    simp [Int.not_lt.mp fits]

theorem PatchBuilder.total_iff (maxAlloc : Nat) (builder : PatchBuilder) :
    (RESTRequestBuilder.patch builder).Total maxAlloc ↔ 0 < builder.src.keySpaceSize := by
  constructor
  · intro total
    obtain ⟨built, returned⟩ := total .init ⟨0, "", 0⟩
    obtain ⟨requester, made, -⟩ := bind_eq_ok.mp returned
    obtain ⟨suffix, drawn, -⟩ := bind_eq_ok.mp made
    exact (randInt_ok_iff _ _).mp ⟨suffix, drawn⟩
  · intro positive state draws
    obtain ⟨suffix, drawn⟩ := (randInt_ok_iff _ draws.number).mpr positive
    exact ⟨_, bind_eq_ok.mpr ⟨_, bind_eq_ok.mpr ⟨suffix, drawn, rfl⟩, rfl⟩⟩

theorem PutBuilder.total_iff (maxAlloc : Nat) (builder : PutBuilder) :
    (RESTRequestBuilder.put builder).Total maxAlloc ↔
      0 < builder.src.keySpaceSize ∧ builder.src.payloadSize ≤ maxAlloc := by
  constructor
  · intro total
    obtain ⟨built, returned⟩ := total .init ⟨0, "", 0⟩
    obtain ⟨suffix, drawn, returned⟩ := bind_eq_ok.mp returned
    obtain ⟨payload, sampled, -⟩ := bind_eq_ok.mp returned
    exact ⟨(randInt_ok_iff _ _).mp ⟨suffix, drawn⟩, (randomPayload_ok_iff _ _ _).mp ⟨payload, sampled⟩⟩
  · intro fits state draws
    obtain ⟨suffix, drawn⟩ := (randInt_ok_iff _ draws.number).mpr fits.1
    obtain ⟨payload, sampled⟩ := (randomPayload_ok_iff _ _ draws.payload).mpr fits.2
    exact ⟨_, bind_eq_ok.mpr ⟨suffix, drawn, bind_eq_ok.mpr ⟨payload, sampled,
      bind_eq_ok.mpr ⟨_, bind_eq_ok.mpr ⟨suffix, drawn, rfl⟩, rfl⟩⟩⟩⟩

theorem PostDelBuilder.buildPost_ok_iff (builder : PostDelBuilder) (state : PostDelState)
    (timestamp : Int) (payload : String) :
    (∃ requester, builder.buildPost state timestamp payload = .ok requester) ↔
      builder.src.kube.resource = "pods" := by
  unfold PostDelBuilder.buildPost renderTemplate
  by_cases supported : builder.src.kube.resource = "pods"
  · simp [supported]
  · simp [supported, fail, panics]

theorem PostDelBuilder.total_iff (maxAlloc : Nat) (builder : PostDelBuilder) :
    (RESTRequestBuilder.postDel builder).Total maxAlloc ↔
      builder.src.kube.resource = "pods" ∧ builder.src.payloadSize ≤ maxAlloc := by
  constructor
  · intro total
    -- an empty cache leaves nothing to delete, whatever is drawn
    obtain ⟨built, returned⟩ := total .init ⟨0, "", 0⟩
    have create : builder.buildDelete .init 0 = none := by
      simp [buildDelete, PostDelState.init, Cache.init, Cache.pop]
    simp only [RESTRequestBuilder.buildFrom, create] at returned
    obtain ⟨payload, sampled, returned⟩ := bind_eq_ok.mp returned
    obtain ⟨requester, made, -⟩ := bind_eq_ok.mp returned
    exact ⟨(buildPost_ok_iff _ _ _ _).mp ⟨requester, made⟩, (randomPayload_ok_iff _ _ _).mp ⟨payload, sampled⟩⟩
  · intro fits state draws
    dsimp only [RESTRequestBuilder.buildFrom]
    split
    · exact ⟨_, rfl⟩
    · obtain ⟨payload, sampled⟩ := (randomPayload_ok_iff _ _ draws.payload).mpr fits.2
      obtain ⟨requester, made⟩ := (buildPost_ok_iff _ state draws.timestamp payload).mpr fits.1
      exact ⟨_, bind_eq_ok.mpr ⟨payload, sampled, bind_eq_ok.mpr ⟨requester, made, rfl⟩⟩⟩

/-- A request that validation accepts is built in every call exactly if it also
meets what only `Build` needs. -/
theorem accepted_total_iff {request checked : WeightedRequest} {payload : Payload}
    {builder : RESTRequestBuilder} {maxRetries : Int} (maxAlloc : Nat)
    (accepted : request.validate = .ok checked) (one : request.payloads = [payload])
    (made : newBuilder maxRetries checked = .ok builder) :
    builder.Total maxAlloc ↔ Buildable maxAlloc payload := by
  rw [WeightedRequest.eq_single one] at accepted
  have signed := (WeightedRequest.validate_ok accepted).1
  unfold WeightedRequest.validate at accepted
  rw [if_neg (Int.not_lt.mpr signed)] at accepted
  cases payload with
  | patch patch =>
      obtain ⟨trimmed, validated, same⟩ := bind_eq_ok.mp accepted
      cases same
      cases made
      have kept : trimmed.keySpaceSize = patch.keySpaceSize := RequestPatch.validate_ok validated
      rw [PatchBuilder.total_iff, kept, Buildable]
  | put put =>
      obtain ⟨⟨⟩, validated, same⟩ := bind_eq_ok.mp accepted
      cases same
      cases made
      rw [PutBuilder.total_iff, Buildable]
      exact and_iff_right (RequestPut.validate_ok validated)
  | postDel postDel =>
      obtain ⟨-, -, same⟩ := bind_eq_ok.mp accepted
      cases same
      cases made
      exact PostDelBuilder.total_iff maxAlloc _
  | staleList | quorumList | watchList | staleGet | quorumGet | getPodLog =>
      obtain ⟨-, -, same⟩ := bind_eq_ok.mp accepted
      cases same
      cases made
      exact iff_of_true (fun _ _ => ⟨_, rfl⟩) trivial

def podChurnRequest : Payload := .postDel ⟨⟨"", "v1", "pods"⟩, "default", 1 / 2, 100⟩

theorem accepted_total_iff_podChurn :
    (WeightedRequest.single 1 podChurnRequest).validate = .ok (.single 1 podChurnRequest) ∧
      (RESTRequestBuilder.postDel
        ⟨⟨⟨"", "v1", "pods"⟩, "default", 1 / 2, 100⟩, 0⟩).Total (2 ^ 48) := by
  have accepted : (WeightedRequest.single 1 podChurnRequest).validate =
      .ok (.single 1 podChurnRequest) := by decide +kernel
  have one : (WeightedRequest.single 1 podChurnRequest).payloads = [podChurnRequest] := rfl
  have fits : Buildable (2 ^ 48) podChurnRequest := ⟨rfl, by decide⟩
  exact ⟨accepted, (accepted_total_iff (2 ^ 48) accepted one rfl).mpr fits⟩

def nodePatch : RequestPatch := ⟨⟨"", "v1", "nodes"⟩, "", "node", 0, "merge", "\x7b\x7d"⟩

/-- A patch without a key space is accepted, and building it panics. -/
theorem nodePatch_not_total :
    (WeightedRequest.single 1 (.patch nodePatch)).validate = .ok (.single 1 (.patch nodePatch)) ∧
      (WeightedRequest.single 1 (.patch nodePatch)).payloads = [.patch nodePatch] ∧
      ∃ builder, newBuilder 0 (.single 1 (.patch nodePatch)) = .ok builder ∧
        builder.buildFrom (2 ^ 48) .init ⟨0, "", 0⟩ =
          panics "crypto/rand: argument to Int is <= 0" := by
  exact ⟨by decide, rfl, _, rfl, rfl⟩

end Build

end Kperf.Request
