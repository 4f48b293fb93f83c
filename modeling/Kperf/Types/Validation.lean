import Kperf.Types.LoadTraffic
import Mathlib.Data.List.Forall2

/-! What the validation of a load profile decides. A profile is refused with an
error, accepted, or takes the process down at a nil request. What is accepted is
accepted again unchanged. -/

set_option autoImplicit false

namespace Kperf.Types

open Outcome

/-- A check that accepts its own results accepts the checked list. -/
theorem forall₂_results {α : Type} {accepts : α → α → Prop} {items checked : List α}
    (idempotent : ∀ {item result}, accepts item result → accepts result result)
    (pairs : List.Forall₂ accepts items checked) : List.Forall₂ accepts checked checked := by
  induction pairs with
  | nil => exact .nil
  | cons one _ ih => exact .cons (idempotent one) ih

theorem exists_forall₂ {α : Type} {accepts : α → α → Prop} {items : List α} :
    (∃ checked, List.Forall₂ accepts items checked) ↔ ∀ item ∈ items, ∃ result, accepts item result := by
  induction items with
  | nil => simp
  | cons item rest ih =>
      rw [List.forall_mem_cons, ← ih]
      constructor
      · rintro ⟨_, one | ⟨one, later⟩⟩
        exact ⟨⟨_, one⟩, _, later⟩
      · rintro ⟨⟨result, one⟩, others, later⟩
        exact ⟨result :: others, .cons one later⟩

section Payloads

theorem KubeGroupVersionResource.validate_not_panics (kube : KubeGroupVersionResource) :
    ¬Panics kube.validate := by
  simp only [validate, guard_panics, not_panics_ok, and_false, not_false_eq_true]

theorem RequestList.validate_not_panics (request : RequestList) (stale : Bool) :
    ¬Panics (request.validate stale) := by
  simp only [validate, bind_panics, wrap_panics, guard_panics, not_panics_ok, and_false,
    KubeGroupVersionResource.validate_not_panics, exists_false, or_self, not_false_eq_true]

theorem RequestWatchList.validate_not_panics (request : RequestWatchList) :
    ¬Panics request.validate := by
  simp only [validate, wrap_panics, KubeGroupVersionResource.validate_not_panics,
    not_false_eq_true]

theorem RequestGet.validate_not_panics (request : RequestGet) : ¬Panics request.validate := by
  simp only [validate, bind_panics, wrap_panics, guard_panics, not_panics_ok, and_false,
    KubeGroupVersionResource.validate_not_panics, exists_false, or_self, not_false_eq_true]

theorem RequestPut.validate_not_panics (request : RequestPut) : ¬Panics request.validate := by
  simp only [validate, bind_panics, wrap_panics, guard_panics, not_panics_ok, and_false,
    KubeGroupVersionResource.validate_not_panics, exists_false, or_self, not_false_eq_true]

theorem RequestGetPodLog.validate_not_panics (request : RequestGetPodLog) :
    ¬Panics request.validate := by
  simp only [validate, guard_panics, not_panics_ok, and_false, not_false_eq_true]

theorem RequestPostDel.validate_not_panics (request : RequestPostDel) :
    ¬Panics request.validate := by
  simp only [validate, bind_panics, wrap_panics, guard_panics, not_panics_ok, and_false,
    KubeGroupVersionResource.validate_not_panics, exists_false, or_self, not_false_eq_true]

theorem RequestPatch.validate_not_panics (request : RequestPatch) : ¬Panics request.validate := by
  simp only [validate, bind_panics, wrap_panics, guard_panics,
    KubeGroupVersionResource.validate_not_panics, false_or]
  rintro ⟨-, -, -, -, -, stopped⟩
  split at stopped
  · exact not_panics_ok stopped
  · exact not_panics_fail stopped

theorem RequestPatch.validate_trimmed {request checked : RequestPatch}
    (accepted : request.validate = .ok checked) :
    Text.Json.valid checked.body = true ∧
      checked = { request with body := Text.trimSpace request.body } := by
  obtain ⟨-, -, accepted⟩ := bind_eq_ok.mp accepted
  obtain ⟨-, accepted⟩ := guard_eq_ok.mp accepted
  obtain ⟨-, accepted⟩ := guard_eq_ok.mp accepted
  obtain ⟨-, accepted⟩ := guard_eq_ok.mp accepted
  dsimp only at accepted
  split at accepted
  · rename_i valid
    cases accepted
    exact ⟨valid, rfl⟩
  · cases accepted

/-- The trimmed body is trimmed, and the empty text is no JSON value. -/
theorem RequestPatch.validate_idempotent {request checked : RequestPatch}
    (accepted : request.validate = .ok checked) : checked.validate = .ok checked := by
  obtain ⟨valid, rfl⟩ := validate_trimmed accepted
  obtain ⟨⟨⟩, kube, accepted⟩ := bind_eq_ok.mp accepted
  obtain ⟨name, accepted⟩ := guard_eq_ok.mp accepted
  obtain ⟨-, accepted⟩ := guard_eq_ok.mp accepted
  obtain ⟨known, -⟩ := guard_eq_ok.mp accepted
  have body : Text.trimSpace request.body ≠ "" := by
    intro empty
    have refused : Text.Json.valid "" = false := by decide
    dsimp only at valid
    rw [empty, refused] at valid
    cases valid
  refine bind_eq_ok.mpr ⟨(), kube, ?_⟩
  refine guard_eq_ok.mpr ⟨name, guard_eq_ok.mpr ⟨body, guard_eq_ok.mpr ⟨known, ?_⟩⟩⟩
  dsimp only
  rw [Text.trimSpace_trimSpace, if_pos valid]

end Payloads

namespace WeightedRequest

theorem validate_not_panics (request : WeightedRequest) : ¬Panics request.validate := by
  unfold validate
  intro stopped
  obtain ⟨-, stopped⟩ := guard_panics.mp stopped
  split at stopped
  case h_10 => exact not_panics_fail stopped
  all_goals
    obtain stopped | ⟨_, -, stopped⟩ := bind_panics.mp stopped
    · revert stopped
      first
      | exact RequestList.validate_not_panics _ _
      | exact RequestWatchList.validate_not_panics _
      | exact RequestGet.validate_not_panics _
      | exact RequestPut.validate_not_panics _
      | exact RequestPatch.validate_not_panics _
      | exact RequestGetPodLog.validate_not_panics _
      | exact RequestPostDel.validate_not_panics _
    · exact not_panics_ok stopped

theorem validate_idempotent {request checked : WeightedRequest}
    (accepted : request.validate = .ok checked) : checked.validate = .ok checked := by
  have original := accepted
  unfold validate at accepted
  obtain ⟨signed, accepted⟩ := guard_eq_ok.mp accepted
  split at accepted
  case h_7 =>
    obtain ⟨trimmed, validated, same⟩ := bind_eq_ok.mp accepted
    cases same
    unfold validate
    refine guard_eq_ok.mpr ⟨signed, ?_⟩
    simp only [*]
    exact bind_eq_ok.mpr ⟨trimmed, RequestPatch.validate_idempotent validated, rfl⟩
  case h_10 => cases accepted
  all_goals
    obtain ⟨-, -, same⟩ := bind_eq_ok.mp accepted
    cases same
    exact original

end WeightedRequest

section Requests

/-- An entry of the request list and what validation leaves of it. -/
def Checked : Option WeightedRequest → Option WeightedRequest → Prop
  | some request, some checked => request.validate = .ok checked
  | _, _ => False

theorem validateRequests_eq_ok {index : Nat} {requests checked : List (Option WeightedRequest)} :
    validateRequests index requests = .ok checked ↔ List.Forall₂ Checked requests checked := by
  induction requests generalizing index checked with
  | nil =>
      constructor
      · rintro ⟨⟩
        exact .nil
      · rintro ⟨⟩
        rfl
  | cons request rest ih =>
      cases request with
      | none =>
          constructor
          · nofun
          · rintro (_ | ⟨⟨⟩, -⟩)
      | some request =>
          constructor
          · intro accepted
            obtain ⟨valid, one, accepted⟩ := bind_eq_ok.mp accepted
            obtain ⟨others, later, same⟩ := bind_eq_ok.mp accepted
            cases same
            exact .cons (wrap_eq_ok.mp one) (ih.mp later)
          · intro pairs
            cases pairs with
            | @cons _ valid _ others one later =>
                cases valid with
                | none => cases one
                | some valid =>
                    exact bind_eq_ok.mpr
                      ⟨valid, wrap_eq_ok.mpr one, bind_eq_ok.mpr ⟨others, ih.mpr later, rfl⟩⟩

/-- The requests before the first nil entry are accepted. -/
def ReachesNil (requests : List (Option WeightedRequest)) : Prop :=
  ∃ (earlier : List WeightedRequest) (later : List (Option WeightedRequest)),
    requests = earlier.map some ++ none :: later ∧ ∀ request ∈ earlier, ∃ checked, request.validate = .ok checked

theorem reachesNil_cons {request : WeightedRequest} {rest : List (Option WeightedRequest)} :
    ReachesNil (some request :: rest) ↔
      (∃ checked, request.validate = .ok checked) ∧ ReachesNil rest := by
  constructor
  · rintro ⟨earlier, later, split, accepted⟩
    cases earlier with
    | nil => cases split
    | cons first earlier =>
        obtain ⟨⟨⟩, rfl⟩ := List.cons.inj split
        obtain ⟨one, others⟩ := List.forall_mem_cons.mp accepted
        exact ⟨one, earlier, later, rfl, others⟩
  · rintro ⟨one, earlier, later, rfl, others⟩
    exact ⟨request :: earlier, later, rfl, List.forall_mem_cons.mpr ⟨one, others⟩⟩

theorem validateRequests_panics {index : Nat} {requests : List (Option WeightedRequest)} :
    Panics (validateRequests index requests) ↔ ReachesNil requests := by
  induction requests generalizing index with
  | nil => simp [validateRequests, not_panics_ok, ReachesNil]
  | cons request rest ih =>
      cases request with
      | none =>
          refine iff_of_true ?_ ⟨[], rest, rfl, List.forall_mem_nil _⟩
          rw [validateRequests]
          exact ⟨_, rfl⟩
      | some request =>
          simp only [validateRequests, bind_panics, wrap_panics, wrap_eq_ok,
            WeightedRequest.validate_not_panics, not_panics_ok, and_false, exists_false, or_false,
            false_or, ih, reachesNil_cons, exists_and_right]

theorem Checked.idempotent {request checked : Option WeightedRequest}
    (accepted : Checked request checked) : Checked checked checked := by
  cases request with
  | none => cases accepted
  | some request =>
      cases checked with
      | none => cases accepted
      | some checked => exact WeightedRequest.validate_idempotent accepted

end Requests

namespace LoadProfileSpec

/-- The checks of a spec on its own fields, made before its requests are looked at. -/
structure FieldsValid (spec : LoadProfileSpec) : Prop where
  conns : 0 < spec.conns
  rate : 0 ≤ spec.rate
  stops : 0 < spec.total ∨ 0 < spec.duration
  client : 0 < spec.client
  contentType : spec.contentType = .json ∨ spec.contentType = .protobuffer

variable {spec checked : LoadProfileSpec}

theorem validate_of_fieldsValid (fields : spec.FieldsValid) :
    spec.validate =
      (validateRequests 0 spec.requests >>= fun requests => .ok { spec with requests }) := by
  have content : spec.contentType.validate = .ok () := if_pos fields.contentType
  have stops := fields.stops
  unfold validate
  rw [if_neg (Int.not_le.mpr fields.conns), if_neg (not_lt.mpr fields.rate), if_neg (by omega),
    if_neg (Int.not_le.mpr fields.client), content]
  rfl

theorem validate_of_not_fieldsValid (refused : ¬spec.FieldsValid) :
    ∃ message, spec.validate = fail message := by
  unfold validate
  split_ifs with conns rate stops client
  · exact ⟨_, rfl⟩
  · exact ⟨_, rfl⟩
  · exact ⟨_, rfl⟩
  · exact ⟨_, rfl⟩
  · have content : ¬(spec.contentType = .json ∨ spec.contentType = .protobuffer) := by
      intro known
      exact refused ⟨by omega, not_lt.mp rate, by omega, by omega, known⟩
    rw [ContentType.validate, if_neg content]
    exact ⟨_, rfl⟩

theorem validate_eq_ok :
    spec.validate = .ok checked ↔ spec.FieldsValid ∧
      ∃ requests, List.Forall₂ Checked spec.requests requests ∧ checked = { spec with requests } := by
  by_cases fields : spec.FieldsValid
  · simp only [validate_of_fieldsValid fields, bind_eq_ok, validateRequests_eq_ok, fields, true_and,
      Except.ok.injEq, eq_comm (b := checked)]
  · obtain ⟨message, refused⟩ := validate_of_not_fieldsValid fields
    simp [refused, fail, fields]

theorem validate_panics : Panics spec.validate ↔ spec.FieldsValid ∧ ReachesNil spec.requests := by
  by_cases fields : spec.FieldsValid
  · simp only [validate_of_fieldsValid fields, bind_panics, validateRequests_panics, not_panics_ok,
      and_false, exists_false, or_false, fields, true_and]
  · obtain ⟨message, refused⟩ := validate_of_not_fieldsValid fields
    simp [refused, not_panics_fail, fields]

theorem validate_idempotent (accepted : spec.validate = .ok checked) :
    checked.validate = .ok checked := by
  obtain ⟨fields, requests, pairs, rfl⟩ := validate_eq_ok.mp accepted
  exact validate_eq_ok.mpr ⟨⟨fields.conns, fields.rate, fields.stops, fields.client,
    fields.contentType⟩, requests, forall₂_results Checked.idempotent pairs, rfl⟩

end LoadProfileSpec

section Specs

theorem validateSpecs_eq_ok {index : Nat} {specs checked : List LoadProfileSpec} :
    validateSpecs index specs = .ok checked ↔
      List.Forall₂ (fun spec valid => spec.validate = .ok valid) specs checked := by
  induction specs generalizing index checked with
  | nil =>
      constructor
      · rintro ⟨⟩
        exact .nil
      · rintro ⟨⟩
        rfl
  | cons spec rest ih =>
      simp only [validateSpecs, bind_eq_ok, wrap_eq_ok, ih, List.forall₂_cons_left_iff,
        Except.ok.injEq]
      constructor
      · rintro ⟨valid, one, others, later, same⟩
        exact ⟨valid, others, one, later, same.symm⟩
      · rintro ⟨valid, others, one, later, same⟩
        exact ⟨valid, one, others, later, same.symm⟩

/-- The specs before one that reaches a nil request are accepted. -/
def SpecsReachNil (specs : List LoadProfileSpec) : Prop :=
  ∃ earlier spec later, specs = earlier ++ spec :: later ∧
    (∀ accepted ∈ earlier, ∃ checked, accepted.validate = .ok checked) ∧
    spec.FieldsValid ∧ ReachesNil spec.requests

theorem specsReachNil_cons {spec : LoadProfileSpec} {rest : List LoadProfileSpec} :
    SpecsReachNil (spec :: rest) ↔ (spec.FieldsValid ∧ ReachesNil spec.requests) ∨
      (∃ checked, spec.validate = .ok checked) ∧ SpecsReachNil rest := by
  constructor
  · rintro ⟨earlier, found, later, split, accepted, reaches⟩
    cases earlier with
    | nil =>
        cases split
        exact .inl reaches
    | cons first earlier =>
        cases split
        obtain ⟨one, others⟩ := List.forall_mem_cons.mp accepted
        exact .inr ⟨one, earlier, found, later, rfl, others, reaches⟩
  · rintro (reaches | ⟨one, earlier, found, later, rfl, others, reaches⟩)
    · exact ⟨[], spec, rest, rfl, List.forall_mem_nil _, reaches⟩
    · exact ⟨spec :: earlier, found, later, rfl, List.forall_mem_cons.mpr ⟨one, others⟩, reaches⟩

theorem validateSpecs_panics {index : Nat} {specs : List LoadProfileSpec} :
    Panics (validateSpecs index specs) ↔ SpecsReachNil specs := by
  induction specs generalizing index with
  | nil => simp [validateSpecs, not_panics_ok, SpecsReachNil]
  | cons spec rest ih =>
      simp only [validateSpecs, bind_panics, wrap_panics, wrap_eq_ok, not_panics_ok, and_false,
        exists_false, or_false, ih, specsReachNil_cons, LoadProfileSpec.validate_panics,
        exists_and_right]

end Specs

namespace LoadProfile

variable {profile checked : LoadProfile}

theorem validate_eq_ok :
    profile.validate = .ok checked ↔ profile.version = 1 ∧ profile.specs ≠ [] ∧
      ∃ specs, List.Forall₂ (fun spec valid => spec.validate = .ok valid) profile.specs specs ∧
        checked = { profile with specs } := by
  simp only [validate, guard_eq_ok, bind_eq_ok, validateSpecs_eq_ok, not_not, ne_eq,
    List.length_eq_zero_iff, Except.ok.injEq, eq_comm (b := checked)]

theorem validate_panics :
    Panics profile.validate ↔ profile.version = 1 ∧ SpecsReachNil profile.specs := by
  simp only [validate, guard_panics, bind_panics, validateSpecs_panics, not_panics_ok, and_false,
    exists_false, or_false, not_not, ne_eq, List.length_eq_zero_iff, and_congr_right_iff,
    and_iff_right_iff_imp]
  rintro - ⟨earlier, spec, later, split, -⟩
  simp [split]

theorem validate_idempotent (accepted : profile.validate = .ok checked) :
    checked.validate = .ok checked := by
  obtain ⟨version, present, specs, pairs, rfl⟩ := validate_eq_ok.mp accepted
  refine validate_eq_ok.mpr
    ⟨version, ?_, specs, forall₂_results LoadProfileSpec.validate_idempotent pairs, rfl⟩
  rintro rfl
  exact present (List.forall₂_nil_right_iff.mp pairs)

end LoadProfile

end Kperf.Types
