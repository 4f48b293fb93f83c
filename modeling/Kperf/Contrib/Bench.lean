import Kperf.Cmd.LoadConfig
import Kperf.Cmd.Utils
import Kperf.Types.LoadTrafficEncoding

/-! The load profile of a `runkperf bench` run: one that the program carries with
it, with the values of the command line written into its first spec. -/

set_option autoImplicit false

namespace Kperf.Contrib.Bench

open Types Outcome

/-- What `cliCtx` returns for the flags. `total` is `none` where the flag is not
set; the other values may be defaults. -/
structure Flags where
  command : String
  total : Option Int
  totalDefault : Int
  duration : Int
  rgAffinity : String
  contentType : String
  namePattern : String
  readRatio : ℚ
  namespace_ : String
  configmapTotal : Int
  configmapSize : Int

def Flags.totalValue (flags : Flags) : Int := flags.total.getD flags.totalDefault

/-- `int(ratio * 100)`, for a ratio that is not negative. -/
def Flags.readShares (flags : Flags) : Int := (flags.readRatio * 100).floor

/-- Statements on `spec.Profile.Specs[0]`. -/
def updateFirst (change : LoadProfileSpec → Outcome LoadProfileSpec) (spec : RunnerGroupSpec) :
    Outcome RunnerGroupSpec :=
  match spec.profile with
  | none => panics "runtime error: invalid memory address or nil pointer dereference"
  | some profile =>
      match profile.specs with
      | [] => panics "runtime error: index out of range [0] with length 0"
      | first :: rest => do
          let changed ← change first
          .ok { spec with profile := some { profile with specs := changed :: rest } }

def updateFirstIf (condition : Prop) [Decidable condition]
    (change : LoadProfileSpec → LoadProfileSpec) (spec : RunnerGroupSpec) :
    Outcome RunnerGroupSpec :=
  if condition then updateFirst (fun first => .ok (change first)) spec else .ok spec

def Flags.tweakPatch (flags : Flags) (patch : RequestPatch) : RequestPatch :=
  { patch with
    name := if flags.namePattern ≠ "" then "runkperf-cm-" ++ flags.namePattern else patch.name
    namespace_ := if flags.namespace_ ≠ "" then flags.namespace_ else patch.namespace_
    keySpaceSize :=
      if 0 < flags.configmapTotal then flags.configmapTotal else patch.keySpaceSize }

def Flags.tweakStaleList (flags : Flags) (list : RequestList) : RequestList :=
  { list with
    namespace_ := if flags.namespace_ ≠ "" then flags.namespace_ else list.namespace_ }

/-- The body of the loop over the requests. Shares are set twice for a request
that holds both a patch and a list. -/
def tweakRequest (flags : Flags) : Option WeightedRequest → Outcome (Option WeightedRequest)
  | none => panics "runtime error: invalid memory address or nil pointer dereference"
  | some r =>
      let shares :=
        if r.staleList.isSome ∧ flags.readRatio ≠ 0 then flags.readShares
        else if r.patch.isSome ∧ flags.readRatio ≠ 0 then 100 - flags.readShares
        else r.shares
      .ok (some { r with
        shares := shares
        patch := r.patch.map flags.tweakPatch
        staleList := r.staleList.map flags.tweakStaleList })

def tweakReadUpdateProfile (flags : Flags) (spec : RunnerGroupSpec) : Outcome RunnerGroupSpec :=
  if flags.readRatio ≤ 0 ∨ 1 < flags.readRatio then
    fail ("invalid read-ratio: " ++ Format.fixed2 flags.readRatio ++ ", must be between 0 and 1")
  else if flags.namePattern ≠ "" ∨ flags.readRatio ≠ 0 ∨ flags.namespace_ ≠ "" ∨
      0 < flags.configmapTotal then
    updateFirst (fun first => do
      let requests ← first.requests.mapM (tweakRequest flags)
      .ok { first with requests }) spec
  else .ok spec

/-- The function that `newLoadProfileFromEmbed` hands to
`NewRunnerGroupSpecFileFromEmbed`. -/
def newLoadProfileFromEmbed (flags : Flags) (spec : RunnerGroupSpec) : Outcome RunnerGroupSpec := do
  if flags.totalValue < 0 then
    fail ("invalid total-requests value: " ++ toString flags.totalValue)
  else
    let timed := flags.total.isNone ∧ 0 < flags.duration
    let reqs := if timed then 0 else flags.totalValue
    let spec ← updateFirstIf timed (fun first => { first with duration := flags.duration }) spec
    let affinityLabels ← wrap ("failed to parse " ++ flags.rgAffinity ++ " affinity: ")
      (Cmd.Utils.keyValuesMap [flags.rgAffinity])
    let spec ← updateFirstIf (reqs ≠ 0) (fun first => { first with total := reqs }) spec
    let spec ← updateFirst (fun first => .ok { first with contentType := ⟨flags.contentType⟩ })
      { spec with nodeAffinity := affinityLabels }
    if flags.command = "read_update" then
      wrap "failed to tweak read-update profile: " (tweakReadUpdateProfile flags spec)
    else .ok spec

section Produced

variable {flags : Flags} {spec tweaked : RunnerGroupSpec}
variable {version : Int} {description : String}
variable {first : LoadProfileSpec} {rest : List LoadProfileSpec}

theorem updateFirst_eq_ok {change : LoadProfileSpec → Outcome LoadProfileSpec}
    (embedded : spec.profile = some ⟨version, description, first :: rest⟩) :
    updateFirst change spec = .ok tweaked ↔ ∃ changed, change first = .ok changed ∧
      { spec with profile := some ⟨version, description, changed :: rest⟩ } = tweaked := by
  rw [updateFirst, embedded, bind_eq_ok]
  simp only [Except.ok.injEq]

/-- Tweaking the profile of `read_update` changes the requests of its first spec. -/
theorem tweakReadUpdateProfile_eq_ok
    (embedded : spec.profile = some ⟨version, description, first :: rest⟩) :
    tweakReadUpdateProfile flags spec = .ok tweaked ↔
      (0 < flags.readRatio ∧ flags.readRatio ≤ 1) ∧
        ∃ requests, first.requests.mapM (tweakRequest flags) = .ok requests ∧
          { spec with profile := some ⟨version, description, { first with requests } :: rest⟩ } =
            tweaked := by
  rw [tweakReadUpdateProfile, guard_eq_ok, not_or, not_le, not_lt]
  refine and_congr_right fun inside => ?_
  rw [if_pos (.inr (.inl inside.1.ne')), updateFirst_eq_ok embedded]
  simp only [bind_eq_ok, Except.ok.injEq]
  constructor
  · intro changes
    obtain ⟨_, ⟨requests, ran, rfl⟩, rfl⟩ := changes
    exact ⟨requests, ran, rfl⟩
  · intro changes
    obtain ⟨requests, ran, rfl⟩ := changes
    exact ⟨_, ⟨requests, ran, rfl⟩, rfl⟩

theorem updateFirstIf_eq_ok {condition : Prop} [Decidable condition]
    {change : LoadProfileSpec → LoadProfileSpec}
    (embedded : spec.profile = some ⟨version, description, first :: rest⟩) :
    updateFirstIf condition change spec = .ok tweaked ↔
      { spec with profile := some ⟨version, description,
        (if condition then change first else first) :: rest⟩ } = tweaked := by
  rw [updateFirstIf]
  split_ifs
  · rw [updateFirst_eq_ok embedded]
    simp
  · rw [Except.ok.injEq, ← embedded]

/-- The first spec with the flags, but for its requests. -/
def Flags.overrideFirst (flags : Flags) (first : LoadProfileSpec) : LoadProfileSpec :=
  let timed := flags.total.isNone ∧ 0 < flags.duration
  let reqs := if timed then 0 else flags.totalValue
  { first with
    duration := if timed then flags.duration else first.duration
    total := if reqs ≠ 0 then reqs else first.total
    contentType := ⟨flags.contentType⟩ }

/-- The flags are written into the first spec and into no other one. -/
theorem newLoadProfileFromEmbed_ok
    (embedded : spec.profile = some ⟨version, description, first :: rest⟩)
    (produced : newLoadProfileFromEmbed flags spec = .ok tweaked) :
    ∃ requests, tweaked.profile = some ⟨version, description,
        { flags.overrideFirst first with requests } :: rest⟩ ∧
      if flags.command = "read_update" then
        first.requests.mapM (tweakRequest flags) = .ok requests
      else requests = first.requests := by
  rw [newLoadProfileFromEmbed, guard_eq_ok] at produced
  obtain ⟨-, produced⟩ := produced
  obtain ⟨_, timed, produced⟩ := bind_eq_ok.mp produced
  obtain ⟨_, -, produced⟩ := bind_eq_ok.mp produced
  obtain ⟨_, totalled, produced⟩ := bind_eq_ok.mp produced
  obtain ⟨overridden, typed, produced⟩ := bind_eq_ok.mp produced
  cases (updateFirstIf_eq_ok embedded).mp timed
  cases (updateFirstIf_eq_ok rfl).mp totalled
  obtain ⟨changed, set, rfl⟩ := (updateFirst_eq_ok rfl).mp typed
  have first : changed = flags.overrideFirst first := by
    rw [← Except.ok.inj set, Flags.overrideFirst]
    split_ifs <;> rfl
  subst first
  by_cases command : flags.command = "read_update"
  · rw [if_pos command] at produced
    simp only [if_pos command]
    obtain ⟨-, requests, ran, rfl⟩ :=
      (tweakReadUpdateProfile_eq_ok rfl).mp (wrap_eq_ok.mp produced)
    exact ⟨requests, rfl, ran⟩
  · rw [if_neg command] at produced
    simp only [if_neg command]
    cases produced
    exact ⟨first.requests, rfl, rfl⟩

/-- A duration is written where no number of requests is given. -/
theorem newLoadProfileFromEmbed_timed
    (embedded : spec.profile = some ⟨version, description, first :: rest⟩)
    (untotalled : flags.total = none) (positive : 0 < flags.duration)
    (produced : newLoadProfileFromEmbed flags spec = .ok tweaked) :
    ∃ requests, tweaked.profile = some ⟨version, description,
      { first with
        duration := flags.duration
        contentType := ⟨flags.contentType⟩
        requests } :: rest⟩ := by
  have timed : flags.total.isNone ∧ 0 < flags.duration := ⟨by rw [untotalled]; rfl, positive⟩
  obtain ⟨requests, written, -⟩ := newLoadProfileFromEmbed_ok embedded produced
  rw [Flags.overrideFirst, if_pos timed, if_pos timed, if_neg (not_not.mpr rfl)] at written
  exact ⟨requests, written⟩

end Produced

/-! The duration in the runner. -/

/-- What the runner loads of a spec that a duration limits: the given duration, no
number of requests, and every other limit as the spec has it. -/
structure Limited (duration : Int) (spec loaded : LoadProfileSpec) : Prop where
  duration : loaded.duration = duration
  total : loaded.total = 0
  rate : loaded.rate = spec.rate
  conns : loaded.conns = spec.conns
  client : loaded.client = spec.client
  maxRetries : loaded.maxRetries = spec.maxRetries

/-- The profile of a benchmark as its runners load it. -/
def runnerLoads (flags : Flags) (cfgPath : String) (spec : RunnerGroupSpec) :
    Outcome LoadProfile := do
  let tweaked ← newLoadProfileFromEmbed flags spec
  Cmd.Runner.load cfgPath (tweaked.profile.getD LoadProfile.zero)

section Duration

variable {flags : Flags} {cfgPath : String} {spec : RunnerGroupSpec}
variable {version : Int} {description : String}
variable {first loaded : LoadProfileSpec} {rest : List LoadProfileSpec}

/-- Connections and clients that the first spec leaves out are set to one. -/
theorem limited_first {duration : Int} {contentType : ContentType}
    {requests : List (Option WeightedRequest)} (untotalled : first.total = 0)
    (positive : 0 < duration)
    (valid : (Cmd.Runner.overrideSpec .unset
      { first with duration, contentType, requests }).validate = .ok loaded) :
    Limited duration first loaded ↔ first.conns ≠ 0 ∧ first.client ≠ 0 := by
  obtain ⟨-, checked, -, rfl⟩ := LoadProfileSpec.validate_eq_ok.mp valid
  rw [Cmd.Runner.overrideSpec_unset]
  constructor
  · intro limited
    refine ⟨fun zero => ?_, fun zero => ?_⟩
    · have same : (if first.conns = 0 then 1 else first.conns) = first.conns := limited.conns
      rw [if_pos zero, zero] at same
      exact absurd same (by decide)
    · have same : (if first.client = 0 then 1 else first.client) = first.client := limited.client
      rw [if_pos zero, zero] at same
      exact absurd same (by decide)
  · intro given
    refine ⟨?_, ?_, rfl, if_neg given.1, if_neg given.2, rfl⟩
    · exact if_neg (show ¬(0 < first.total ∧ 0 < duration) by omega)
    · exact (if_neg (show ¬(first.total = 0 ∧ duration = 0) by omega)).trans untotalled

theorem limited_later {duration : Int} {later : LoadProfileSpec} (untotalled : later.total = 0)
    (valid : later.validate = .ok loaded) :
    Limited duration later loaded ↔ later.duration = duration := by
  obtain ⟨-, checked, -, rfl⟩ := LoadProfileSpec.validate_eq_ok.mp valid
  constructor
  · intro limited
    exact limited.duration
  · intro same
    exact ⟨same, untotalled, rfl, rfl, rfl, rfl⟩

theorem limited_rest {duration : Int} {others : List LoadProfileSpec}
    (untotalled : ∀ later ∈ rest, later.total = 0)
    (valid : List.Forall₂ (fun later loaded => later.validate = .ok loaded) rest others) :
    List.Forall₂ (Limited duration) rest others ↔ ∀ later ∈ rest, later.duration = duration := by
  induction valid with
  | nil => simp
  | cons one _ ih =>
      obtain ⟨head, tail⟩ := List.forall_mem_cons.mp untotalled
      rw [List.forall₂_cons, List.forall_mem_cons, limited_later head one, ih tail]

/-- A given duration holds for every spec of a profile and nothing else changes exactly
if every spec after the first one has it already and the first one gives its connections
and clients. -/
theorem duration_reaches_iff {profile : LoadProfile}
    (embedded : spec.profile = some ⟨version, description, first :: rest⟩)
    (limited : ∀ each ∈ first :: rest, each.total = 0) (untotalled : flags.total = none)
    (positive : 0 < flags.duration) (loads : runnerLoads flags cfgPath spec = .ok profile) :
    List.Forall₂ (Limited flags.duration) (first :: rest) profile.specs ↔
      (first.conns ≠ 0 ∧ first.client ≠ 0) ∧
        ∀ later ∈ rest, later.duration = flags.duration := by
  obtain ⟨tweaked, produced, loads⟩ := bind_eq_ok.mp loads
  obtain ⟨requests, written⟩ :=
    newLoadProfileFromEmbed_timed embedded untotalled positive produced
  rw [written, Option.getD_some] at loads
  obtain ⟨-, specs, valid, rfl⟩ := Cmd.Runner.load_eq_ok.mp loads
  obtain ⟨one, others, validFirst, validRest, rfl⟩ := List.forall₂_cons_left_iff.mp valid
  obtain ⟨firstUntotalled, restUntotalled⟩ := List.forall_mem_cons.mp limited
  rw [List.forall₂_cons, limited_first firstUntotalled positive validFirst,
    limited_rest restUntotalled validRest]

end Duration

/-- A request for pods, as the profiles of the time series write it. -/
def podList (limit : Int) : RequestList := ⟨⟨"", "v1", "pods"⟩, "", limit, "", ""⟩

def replayPhase (rate : ℚ) (duration conns client stale quorum : Int) : LoadProfileSpec where
  rate := rate
  total := 0
  duration := duration
  conns := conns
  client := client
  contentType := .json
  disableHTTP2 := false
  maxRetries := 0
  requests :=
    [some ⟨stale, some (podList 0), none, none, none, none, none, none, none, none⟩,
     some ⟨quorum, none, some (podList 100), none, none, none, none, none, none, none⟩]

/-- The file `loadprofile/timeseries_replay.yaml`. -/
def timeseriesReplay : RunnerGroupSpec where
  count := 10
  profile := some ⟨1, "time-series replay - simulating traffic spike pattern",
    [replayPhase 10 30 5 10 70 30, replayPhase 100 20 20 50 60 40, replayPhase 25 30 10 20 80 20]⟩
  nodeAffinity := ∅
  serviceAccount := none
  ownerReference := none

/-- `runkperf bench timeseries_replay` with a duration. The command has no flag for
the number of requests. -/
def replayFlags (duration : Int) : Flags where
  command := "timeseries_replay"
  total := none
  totalDefault := 0
  duration := duration
  rgAffinity := "node.kubernetes.io/instance-type=Standard_D16s_v3,m4.4xlarge,n1-standard-16"
  contentType := "json"
  namePattern := ""
  readRatio := 0
  namespace_ := ""
  configmapTotal := 0
  configmapSize := 0

/-- The first two phases alone. Twenty seconds are what the second one has. -/
theorem duration_reaches_iff_twoPhases :
    ∃ profile, runnerLoads (replayFlags 20) "load.yaml"
        ⟨10, some ⟨1, "", [replayPhase 10 30 5 10 70 30, replayPhase 100 20 20 50 60 40]⟩, ∅, none,
          none⟩ = .ok profile ∧
      List.Forall₂ (Limited 20) [replayPhase 10 30 5 10 70 30, replayPhase 100 20 20 50 60 40]
        profile.specs := by
  have loads : runnerLoads (replayFlags 20) "load.yaml"
      ⟨10, some ⟨1, "", [replayPhase 10 30 5 10 70 30, replayPhase 100 20 20 50 60 40]⟩, ∅, none,
        none⟩ =
      .ok ⟨1, "", [replayPhase 10 20 5 10 70 30, replayPhase 100 20 20 50 60 40]⟩ := by
    decide +kernel
  refine ⟨_, loads, (duration_reaches_iff rfl ?_ rfl (by decide) loads).mpr ?_⟩
  · simp [replayPhase]
  · simp [replayPhase, replayFlags]

/-- Only the first of the three phases lasts as long as asked for. -/
theorem laterPhases_not_reached :
    ∃ profile, runnerLoads (replayFlags 60) "load.yaml" timeseriesReplay = .ok profile ∧
      profile.specs.map LoadProfileSpec.duration = [60, 20, 30] ∧
      ∀ specs, ¬List.Forall₂ (Limited 60) specs profile.specs := by
  have loads : runnerLoads (replayFlags 60) "load.yaml" timeseriesReplay =
      .ok ⟨1, "time-series replay - simulating traffic spike pattern",
        [replayPhase 10 60 5 10 70 30, replayPhase 100 20 20 50 60 40,
          replayPhase 25 30 10 20 80 20]⟩ := by
    decide +kernel
  refine ⟨_, loads, rfl, fun specs limited => ?_⟩
  obtain ⟨_, _, _, later, -⟩ := List.forall₂_cons_right_iff.mp limited
  obtain ⟨_, _, second, -, -⟩ := List.forall₂_cons_right_iff.mp later
  exact absurd second.duration (by decide)

end Kperf.Contrib.Bench
