import Kperf.Request.Generation
import Kperf.Types.Validation

/-! Validation and the builders each pick one payload of a request, by switches
that list the payloads in different orders. -/

set_option autoImplicit false

namespace Kperf.Types

open Outcome

/-- The validator of the payload's own kind. -/
def Payload.validate : Payload → Outcome Payload
  | .staleList request => do request.validate true; .ok (.staleList request)
  | .quorumList request => do request.validate false; .ok (.quorumList request)
  | .watchList request => do request.validate; .ok (.watchList request)
  | .staleGet request => do request.validate; .ok (.staleGet request)
  | .quorumGet request => do request.validate; .ok (.quorumGet request)
  | .put request => do request.validate; .ok (.put request)
  | .patch request => do let checked ← request.validate; .ok (.patch checked)
  | .getPodLog request => do request.validate; .ok (.getPodLog request)
  | .postDel request => do request.validate; .ok (.postDel request)

def Payload.Valid (payload : Payload) : Prop := ∃ checked, payload.validate = .ok checked

namespace WeightedRequest

/-- The payload that `Validate` looks at. -/
def validatedPayload (request : WeightedRequest) : Option Payload :=
  request.staleList.map .staleList <|> request.quorumList.map .quorumList <|>
    request.watchList.map .watchList <|> request.staleGet.map .staleGet <|>
    request.quorumGet.map .quorumGet <|> request.put.map .put <|> request.patch.map .patch <|>
    request.getPodLog.map .getPodLog <|> request.postDel.map .postDel

/-- The payload that the builder is made from. -/
def builtPayload (request : WeightedRequest) : Option Payload :=
  request.staleList.map .staleList <|> request.quorumList.map .quorumList <|>
    request.watchList.map .watchList <|> request.staleGet.map .staleGet <|>
    request.quorumGet.map .quorumGet <|> request.getPodLog.map .getPodLog <|>
    request.patch.map .patch <|> request.postDel.map .postDel <|> request.put.map .put

/-- Which payloads are set. -/
structure Shape where
  staleList : Bool
  quorumList : Bool
  watchList : Bool
  staleGet : Bool
  quorumGet : Bool
  put : Bool
  patch : Bool
  getPodLog : Bool
  postDel : Bool
  deriving DecidableEq, Repr

def shape (request : WeightedRequest) : Shape where
  staleList := request.staleList.isSome
  quorumList := request.quorumList.isSome
  watchList := request.watchList.isSome
  staleGet := request.staleGet.isSome
  quorumGet := request.quorumGet.isSome
  put := request.put.isSome
  patch := request.patch.isSome
  getPodLog := request.getPodLog.isSome
  postDel := request.postDel.isSome

/-- A list, watch or get is set: both switches try these first, in one order. -/
def Shape.Reads (shape : Shape) : Prop :=
  shape.staleList ∨ shape.quorumList ∨ shape.watchList ∨ shape.staleGet ∨ shape.quorumGet

/-- A put stands alone among the other payloads, and a patch without a log request. -/
def Shape.Unambiguous (shape : Shape) : Prop :=
  ¬(shape.put ∧ (shape.patch ∨ shape.getPodLog ∨ shape.postDel)) ∧
    ¬(shape.patch ∧ shape.getPodLog)

theorem builtPayload_eq {request : WeightedRequest}
    (clear : request.shape.Reads ∨ request.shape.Unambiguous) :
    request.builtPayload = request.validatedPayload := by
  obtain ⟨shares, staleList, quorumList, watchList, staleGet, quorumGet, put, patch, getPodLog,
    postDel⟩ := request
  simp only [Shape.Reads, Shape.Unambiguous, shape] at clear
  cases staleList with
  | some list => rfl
  | none =>
      cases quorumList with
      | some list => rfl
      | none =>
          cases watchList with
          | some watch => rfl
          | none =>
              cases staleGet with
              | some get => rfl
              | none =>
                  cases quorumGet with
                  | some get => rfl
                  | none =>
                      cases put <;> cases patch <;> cases getPodLog <;> cases postDel <;>
                        simp_all [builtPayload, validatedPayload]

/-- The cases of the switch in `Validate`: the payloads before the picked one are nil. -/
theorem validate_validatedPayload {request checked : WeightedRequest}
    (accepted : request.validate = .ok checked) :
    checked.shape = request.shape ∧ ∃ payload, checked.validatedPayload = some payload ∧
      payload.Valid := by
  unfold validate at accepted
  obtain ⟨-, accepted⟩ := guard_eq_ok.mp accepted
  split at accepted
  case h_7 =>
    obtain ⟨trimmed, validated, same⟩ := bind_eq_ok.mp accepted
    cases same
    have again := RequestPatch.validate_idempotent validated
    refine ⟨by simp [shape, *], .patch trimmed, ?_, _, bind_eq_ok.mpr ⟨trimmed, again, rfl⟩⟩
    simp_all [validatedPayload, ← Option.eq_none_iff_forall_ne_some]
  case h_10 => cases accepted
  all_goals
    obtain ⟨⟨⟩, validated, same⟩ := bind_eq_ok.mp accepted
    cases same
    refine ⟨rfl, ?_⟩
    clear accepted
    simp_all only [validatedPayload, ← Option.eq_none_iff_forall_ne_some, Option.map_some,
      Option.map_none, Option.orElse_eq_orElse, Option.orElse_eq_or, Option.none_or, Option.some_or]
    exact ⟨_, rfl, _, bind_eq_ok.mpr ⟨(), validated, rfl⟩⟩

end WeightedRequest

end Kperf.Types

namespace Kperf.Request

open Types Outcome

def payloadBuilder (maxRetries : Int) : Payload → RESTRequestBuilder
  | .staleList request => .list ⟨request, "0", maxRetries⟩
  | .quorumList request => .list ⟨request, "", maxRetries⟩
  | .watchList request => .watchList ⟨request, maxRetries⟩
  | .staleGet request => .get ⟨request, "0", maxRetries⟩
  | .quorumGet request => .get ⟨request, "", maxRetries⟩
  | .put request => .put ⟨request, maxRetries⟩
  | .patch request => .patch ⟨request, (getPatchType request.patchType).getD "", maxRetries⟩
  | .getPodLog request => .getPodLog ⟨request, maxRetries⟩
  | .postDel request => .postDel ⟨request, maxRetries⟩

theorem newBuilder_eq {request : WeightedRequest} {payload : Payload}
    (built : request.builtPayload = some payload) (maxRetries : Int) :
    newBuilder maxRetries request = .ok (payloadBuilder maxRetries payload) := by
  unfold newBuilder
  split
  all_goals
    simp_all only [WeightedRequest.builtPayload, ← Option.eq_none_iff_forall_ne_some,
      Option.map_some, Option.map_none, Option.orElse_eq_orElse, Option.orElse_eq_or,
      Option.none_or, Option.some_or, Option.some.injEq, reduceCtorEq]
  all_goals
    subst built
    rfl

/-- If the request is accepted, its builder is made from a payload that passes the
validator of its own kind. -/
def BuiltIsValid (request : WeightedRequest) : Prop :=
  ∀ checked, request.validate = .ok checked → ∃ payload, checked.builtPayload = some payload ∧
    (∀ maxRetries, newBuilder maxRetries checked = .ok (payloadBuilder maxRetries payload)) ∧
    payload.Valid

theorem not_builtIsValid {request checked : WeightedRequest} {payload : Payload} {fault : Fault}
    (accepted : request.validate = .ok checked) (built : checked.builtPayload = some payload)
    (refused : payload.validate = .error fault) : ¬BuiltIsValid request := by
  intro valid
  obtain ⟨found, same, -, result, passes⟩ := valid checked accepted
  cases built.symm.trans same
  cases refused.symm.trans passes

theorem builtIsValid_of_clear {request : WeightedRequest}
    (clear : request.shape.Reads ∨ request.shape.Unambiguous) : BuiltIsValid request := by
  intro checked accepted
  obtain ⟨shapes, payload, validated, valid⟩ := WeightedRequest.validate_validatedPayload accepted
  rw [← shapes] at clear
  rw [← WeightedRequest.builtPayload_eq clear] at validated
  exact ⟨payload, validated, newBuilder_eq validated, valid⟩

section Samples

/-- A request of a shape without reads. -/
def requestOf (shape : WeightedRequest.Shape) (put : RequestPut) (patch : RequestPatch) :
    WeightedRequest :=
  { WeightedRequest.empty 1 with
    put := if shape.put then some put else none
    patch := if shape.patch then some patch else none
    getPodLog := if shape.getPodLog then some ⟨"", "", "", none, none⟩ else none
    postDel := if shape.postDel then some ⟨⟨"", "", ""⟩, "", 0, 0⟩ else none }

theorem shape_requestOf {shape : WeightedRequest.Shape} (others : ¬shape.Reads) (put : RequestPut)
    (patch : RequestPatch) : (requestOf shape put patch).shape = shape := by
  obtain ⟨staleList, quorumList, watchList, staleGet, quorumGet, hasPut, hasPatch, hasLog,
    hasPostDel⟩ := shape
  simp only [WeightedRequest.Shape.Reads, not_or, Bool.not_eq_true] at others
  obtain ⟨rfl, rfl, rfl, rfl, rfl⟩ := others
  cases hasPut <;> cases hasPatch <;> cases hasLog <;> cases hasPostDel <;> rfl

def configMapPut : RequestPut := ⟨⟨"", "v1", "configmaps"⟩, "default", "cm", 10, 10⟩

def emptyPatch : RequestPatch := ⟨⟨"", "", ""⟩, "", "", 0, "", ""⟩

def labelPatch : RequestPatch := ⟨⟨"", "v1", "nodes"⟩, "", "node", 10, "merge", "\x7b\x7d"⟩

variable {shape : WeightedRequest.Shape}

/-- Validation takes the put, which is tried last for the builder. -/
theorem put_alone (others : ¬shape.Reads)
    (valid : ∀ request, request.shape = shape → BuiltIsValid request) :
    ¬(shape.put ∧ (shape.patch ∨ shape.getPodLog ∨ shape.postDel)) := by
  have shapes := shape_requestOf others configMapPut emptyPatch
  obtain ⟨staleList, quorumList, watchList, staleGet, quorumGet, hasPut, hasPatch, hasLog,
    hasPostDel⟩ := shape
  rintro ⟨put, another⟩
  dsimp only at put another
  subst put
  cases hasLog with
  | true => exact not_builtIsValid rfl rfl rfl (valid _ shapes)
  | false =>
      cases hasPatch with
      | true => exact not_builtIsValid rfl rfl rfl (valid _ shapes)
      | false =>
          cases hasPostDel with
          | true => exact not_builtIsValid rfl rfl rfl (valid _ shapes)
          | false => simp at another

/-- Validation takes the patch, where the builder is made for the log. -/
theorem patch_without_log (others : ¬shape.Reads)
    (valid : ∀ request, request.shape = shape → BuiltIsValid request)
    (noPut : ¬(shape.put ∧ (shape.patch ∨ shape.getPodLog ∨ shape.postDel))) :
    ¬(shape.patch ∧ shape.getPodLog) := by
  have shapes := shape_requestOf others configMapPut labelPatch
  obtain ⟨staleList, quorumList, watchList, staleGet, quorumGet, hasPut, hasPatch, hasLog,
    hasPostDel⟩ := shape
  rintro ⟨patch, log⟩
  dsimp only at patch log noPut
  subst patch log
  cases hasPut with
  | true => simp at noPut
  | false => exact not_builtIsValid rfl rfl rfl (valid _ shapes)

end Samples

/-- A combination of payloads is safe, whatever they hold, exactly if a read is
among them or they are unambiguous. -/
theorem builtIsValid_iff (shape : WeightedRequest.Shape) :
    (∀ request, request.shape = shape → BuiltIsValid request) ↔
      shape.Reads ∨ shape.Unambiguous := by
  constructor
  · intro valid
    by_cases reads : shape.Reads
    · exact .inl reads
    · have noPut := put_alone reads valid
      exact .inr ⟨noPut, patch_without_log reads valid noPut⟩
  · rintro clear request rfl
    exact builtIsValid_of_clear clear

def putWithLog : WeightedRequest :=
  { WeightedRequest.empty 1 with
    put := some configMapPut
    getPodLog := some ⟨"default", "", "", none, none⟩ }

/-- The put is validated; the builder is made for a log of a pod without a name. -/
theorem putWithLog_not_builtIsValid :
    putWithLog.validate = .ok putWithLog ∧
      newBuilder 0 putWithLog = .ok (.getPodLog ⟨⟨"default", "", "", none, none⟩, 0⟩) ∧
      ¬BuiltIsValid putWithLog := by
  exact ⟨rfl, rfl, not_builtIsValid rfl rfl rfl⟩

end Kperf.Request
