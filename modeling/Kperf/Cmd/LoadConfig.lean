import Kperf.Types.Validation

/-! `loadConfig` of the `runner` command. The flags override fields of the first
spec and fill in what it leaves out; the profile is validated last. What the
command line parser and the YAML decoder return is part of the input. -/

set_option autoImplicit false

namespace Kperf.Cmd.Runner

open Types Outcome

section Model

/-- The override flags: `none` where a flag is not set. -/
structure Flags where
  rate : Option ℚ
  conns : Option Int
  client : Option Int
  total : Option Int
  duration : Option Int
  contentType : Option String
  disableHTTP2 : Option Bool
  maxRetries : Option Int
  deriving DecidableEq, Repr

namespace Flags

def unset : Flags := ⟨none, none, none, none, none, none, none, none⟩

variable (flags : Flags)

/-! What `cliCtx` returns for a flag: its value, or the default of the command. -/

def connsValue : Int := flags.conns.getD 1

def clientValue : Int := flags.client.getD 1

def totalValue : Int := flags.total.getD 1000

def contentTypeValue : ContentType := ⟨flags.contentType.getD ContentType.json.name⟩

end Flags

def hasCliOverrides (flags : Flags) : Bool :=
  flags.rate.isSome || flags.conns.isSome || flags.client.isSome || flags.total.isSome ||
    flags.duration.isSome || flags.contentType.isSome || flags.disableHTTP2.isSome ||
    flags.maxRetries.isSome

/-- The statements on `Total` and `Duration` of the first spec, in order. -/
def overrideStops (flags : Flags) (total duration : Int) : Int × Int :=
  let total := flags.total.getD total
  let duration := flags.duration.getD duration
  let duration := if 0 < total ∧ 0 < duration then 0 else duration
  let total := if total = 0 ∧ duration = 0 then flags.totalValue else total
  (total, duration)

/-- The statements on `profileCfg.Specs[0]`. Those on other fields than the two
above do not depend on each other. -/
def overrideSpec (flags : Flags) (spec : LoadProfileSpec) : LoadProfileSpec :=
  { spec with
    rate := flags.rate.getD spec.rate
    conns := if flags.conns.isSome ∨ spec.conns = 0 then flags.connsValue else spec.conns
    client := if flags.client.isSome ∨ spec.client = 0 then flags.clientValue else spec.client
    total := (overrideStops flags spec.total spec.duration).1
    duration := (overrideStops flags spec.total spec.duration).2
    contentType :=
      if flags.contentType.isSome ∨ spec.contentType.name = "" then flags.contentTypeValue
      else spec.contentType
    disableHTTP2 := flags.disableHTTP2.getD spec.disableHTTP2
    maxRetries := flags.maxRetries.getD spec.maxRetries }

/-- `file` is what reading the file gives, and then what decoding it gives. -/
def loadConfig (flags : Flags) (cfgPath : String) (file : Except String (Except String LoadProfile)) :
    Outcome LoadProfile :=
  match file with
  | .error message => fail ("failed to read file " ++ cfgPath ++ ": " ++ message)
  | .ok (.error message) =>
      fail ("failed to unmarshal " ++ cfgPath ++ " from yaml format: " ++ message)
  | .ok (.ok profileCfg) =>
      -- the first statement that reads or writes the first spec panics without one
      match profileCfg.specs with
      | [] => panics "runtime error: index out of range [0] with length 0"
      | first :: rest => { profileCfg with specs := overrideSpec flags first :: rest }.validate

end Model

section Totality

/-- The call returns an error or a profile that validation accepts. -/
def Sound : Outcome LoadProfile → Prop
  | .ok profile => ∃ checked, profile.validate = .ok checked
  | .error (.error _) => True
  | .error (.panic _) => False

theorem sound_iff_of_accepted {outcome : Outcome LoadProfile}
    (accepted : ∀ profile, outcome = .ok profile → profile.validate = .ok profile) :
    Sound outcome ↔ ¬Panics outcome := by
  cases outcome with
  | ok profile => exact iff_of_true ⟨profile, accepted profile rfl⟩ not_panics_ok
  | error fault =>
      cases fault with
      | error message => exact iff_of_true trivial not_panics_fail
      | panic message => exact iff_of_false id (fun returns => returns ⟨message, rfl⟩)

theorem loadConfig_accepted {flags : Flags} {cfgPath : String}
    {file : Except String (Except String LoadProfile)} {profile : LoadProfile}
    (loaded : loadConfig flags cfgPath file = .ok profile) : profile.validate = .ok profile := by
  unfold loadConfig at loaded
  split at loaded
  · cases loaded
  · cases loaded
  · split at loaded
    · cases loaded
    · exact LoadProfile.validate_idempotent loaded

/-- Loading returns, with an error or a valid profile, exactly if the decoded
profile has a spec and validation does not get to a nil request. -/
theorem loadConfig_sound_iff (flags : Flags) (cfgPath : String)
    (file : Except String (Except String LoadProfile)) :
    Sound (loadConfig flags cfgPath file) ↔ ∀ profileCfg, file = .ok (.ok profileCfg) →
      ∃ first rest, profileCfg.specs = first :: rest ∧
        ¬(profileCfg.version = 1 ∧ SpecsReachNil (overrideSpec flags first :: rest)) := by
  rw [sound_iff_of_accepted fun profile => loadConfig_accepted]
  unfold loadConfig
  split
  · exact iff_of_true not_panics_fail nofun
  · exact iff_of_true not_panics_fail nofun
  · rename_i profileCfg
    split
    · rename_i empty
      refine iff_of_false (fun returns => returns ⟨_, rfl⟩) fun present => ?_
      obtain ⟨first, rest, split, -⟩ := present profileCfg rfl
      cases empty.symm.trans split
    · rename_i first rest split
      rw [LoadProfile.validate_panics]
      constructor
      · rintro returns _ ⟨⟩
        exact ⟨first, rest, split, returns⟩
      · intro present
        obtain ⟨_, _, same, returns⟩ := present profileCfg rfl
        cases split.symm.trans same
        exact returns

/-- A profile without specs panics before its validation could refuse it. -/
theorem noSpecs_not_sound :
    loadConfig .unset "load.yaml" (.ok (.ok ⟨1, "", []⟩)) =
        panics "runtime error: index out of range [0] with length 0" ∧
      ¬Sound (loadConfig .unset "load.yaml" (.ok (.ok ⟨1, "", []⟩))) :=
  ⟨rfl, fun sound => sound⟩

/-- A nil request makes validation itself panic. -/
example : loadConfig .unset "load.yaml"
    (.ok (.ok ⟨1, "", [⟨0, 0, 0, 0, 0, ⟨""⟩, false, 0, [none]⟩]⟩)) =
      panics "runtime error: invalid memory address or nil pointer dereference" := by
  decide +kernel

end Totality

section Positions

/-- Normalisation has nothing to do: no default applies, and the number of
requests and the duration are not both given. -/
structure Settled (spec : LoadProfileSpec) : Prop where
  conns : spec.conns ≠ 0
  client : spec.client ≠ 0
  contentType : spec.contentType.name ≠ ""
  single : ¬(0 < spec.total ∧ 0 < spec.duration)
  stops : ¬(spec.total = 0 ∧ spec.duration = 0)

theorem overrideStops_unset (total duration : Int) :
    overrideStops .unset total duration =
      (if total = 0 ∧ duration = 0 then 1000 else total,
        if 0 < total ∧ 0 < duration then 0 else duration) := by
  simp only [overrideStops, Flags.unset, Flags.totalValue, Option.getD_none, Prod.mk.injEq]
  split_ifs <;> omega

theorem overrideSpec_unset (spec : LoadProfileSpec) :
    overrideSpec .unset spec =
      { spec with
        conns := if spec.conns = 0 then 1 else spec.conns
        client := if spec.client = 0 then 1 else spec.client
        total := if spec.total = 0 ∧ spec.duration = 0 then 1000 else spec.total
        duration := if 0 < spec.total ∧ 0 < spec.duration then 0 else spec.duration
        contentType := if spec.contentType.name = "" then .json else spec.contentType } := by
  simp only [overrideSpec, overrideStops_unset]
  simp [Flags.unset, Flags.connsValue, Flags.clientValue, Flags.contentTypeValue]

theorem overrideSpec_unset_eq_self {spec : LoadProfileSpec} :
    overrideSpec .unset spec = spec ↔ Settled spec := by
  obtain ⟨rate, total, duration, conns, client, contentType, disableHTTP2, maxRetries, requests⟩ :=
    spec
  rw [overrideSpec_unset]
  constructor
  · intro same
    simp only [LoadProfileSpec.mk.injEq, ite_eq_right_iff, true_and, and_true] at same
    obtain ⟨stops, single, conns, client, content⟩ := same
    refine ⟨?_, ?_, ?_, ?_, ?_⟩
    · intro zero
      exact absurd ((conns zero).trans zero) (by decide)
    · intro zero
      exact absurd ((client zero).trans zero) (by decide)
    · intro empty
      have name := congrArg ContentType.name (content empty)
      exact absurd (name.trans empty) (by decide)
    · intro both
      exact absurd both.2 (single both ▸ Int.lt_irrefl 0)
    · intro neither
      exact absurd ((stops neither).trans neither.1) (by decide)
  · intro settled
    rw [if_neg settled.conns, if_neg settled.client, if_neg settled.stops, if_neg settled.single,
      if_neg settled.contentType]

theorem fieldsValid_overrideSpec {spec : LoadProfileSpec} (fields : spec.FieldsValid) :
    (overrideSpec .unset spec).FieldsValid := by
  obtain ⟨conns, rate, stops, client, content⟩ := fields
  rw [overrideSpec_unset]
  refine ⟨?_, rate, ?_, ?_, ?_⟩
  · dsimp only
    split_ifs <;> omega
  · dsimp only
    split_ifs <;> omega
  · dsimp only
    split_ifs <;> omega
  · dsimp only
    split_ifs
    · exact .inl rfl
    · exact content

/-- What validation accepts, it accepts after normalisation as well. -/
theorem overrideSpec_accepted {spec checked : LoadProfileSpec}
    (accepted : spec.validate = .ok checked) :
    ∃ normal, (overrideSpec .unset spec).validate = .ok normal := by
  obtain ⟨fields, requests, pairs, -⟩ := LoadProfileSpec.validate_eq_ok.mp accepted
  exact ⟨_, LoadProfileSpec.validate_eq_ok.mpr
    ⟨fieldsValid_overrideSpec fields, requests, pairs, rfl⟩⟩

/-- Validation leaves alone what normalisation changes. -/
theorem settled_of_same {spec checked : LoadProfileSpec} (raw : spec.validate = .ok checked)
    (normal : (overrideSpec .unset spec).validate = .ok checked) : Settled spec := by
  obtain ⟨-, requests, -, rfl⟩ := LoadProfileSpec.validate_eq_ok.mp raw
  obtain ⟨-, others, -, same⟩ := LoadProfileSpec.validate_eq_ok.mp normal
  rw [← overrideSpec_unset_eq_self, overrideSpec_unset]
  rw [overrideSpec_unset] at same
  simp only [LoadProfileSpec.mk.injEq] at same
  obtain ⟨-, total, duration, conns, client, content, -⟩ := same
  rw [← total, ← duration, ← conns, ← client, ← content]

/-- Loading without flags a file that decodes to the profile. -/
def load (cfgPath : String) (profile : LoadProfile) : Outcome LoadProfile :=
  loadConfig .unset cfgPath (.ok (.ok profile))

def Accepted (cfgPath : String) (profile : LoadProfile) : Prop :=
  ∃ loaded, load cfgPath profile = .ok loaded

/-- Every spec fares in the profile as it does alone. -/
structure Independent (cfgPath : String) (profile : LoadProfile) : Prop where
  accepted : Accepted cfgPath profile ↔
    ∀ spec ∈ profile.specs, Accepted cfgPath { profile with specs := [spec] }
  results : ∀ loaded, load cfgPath profile = .ok loaded →
    List.Forall₂ (fun spec result => ∃ alone,
      load cfgPath { profile with specs := [spec] } = .ok alone ∧ alone.specs = [result])
      profile.specs loaded.specs

section Profile

variable {cfgPath description : String} {version : Int}
variable {first : LoadProfileSpec} {rest : List LoadProfileSpec}

theorem load_eq_ok {loaded : LoadProfile} :
    load cfgPath ⟨version, description, first :: rest⟩ = .ok loaded ↔ version = 1 ∧
      ∃ specs, List.Forall₂ (fun spec valid => spec.validate = .ok valid)
          (overrideSpec .unset first :: rest) specs ∧ loaded = ⟨version, description, specs⟩ := by
  refine (LoadProfile.validate_eq_ok).trans ?_
  simp

theorem load_alone_eq_ok {loaded : LoadProfile} :
    load cfgPath ⟨version, description, [first]⟩ = .ok loaded ↔ version = 1 ∧
      ∃ result, (overrideSpec .unset first).validate = .ok result ∧
        loaded = ⟨version, description, [result]⟩ := by
  rw [load_eq_ok]
  constructor
  · rintro ⟨version, specs, pairs, rfl⟩
    obtain ⟨result, others, one, later, rfl⟩ := List.forall₂_cons_left_iff.mp pairs
    cases later
    exact ⟨version, result, one, rfl⟩
  · rintro ⟨version, result, one, rfl⟩
    exact ⟨version, [result], .cons one .nil, rfl⟩

theorem accepted_alone_iff : Accepted cfgPath ⟨version, description, [first]⟩ ↔
    version = 1 ∧ ∃ valid, (overrideSpec .unset first).validate = .ok valid := by
  constructor
  · rintro ⟨loaded, ran⟩
    obtain ⟨version, valid, accepted, -⟩ := load_alone_eq_ok.mp ran
    exact ⟨version, valid, accepted⟩
  · rintro ⟨version, valid, accepted⟩
    exact ⟨_, load_alone_eq_ok.mpr ⟨version, valid, accepted, rfl⟩⟩

theorem accepted_alone (accepted : Accepted cfgPath ⟨version, description, first :: rest⟩) :
    ∀ spec ∈ first :: rest, Accepted cfgPath ⟨version, description, [spec]⟩ := by
  obtain ⟨loaded, ran⟩ := accepted
  obtain ⟨version, specs, pairs, -⟩ := load_eq_ok.mp ran
  obtain ⟨result, others, one, later, -⟩ := List.forall₂_cons_left_iff.mp pairs
  refine List.forall_mem_cons.mpr ⟨accepted_alone_iff.mpr ⟨version, result, one⟩, ?_⟩
  intro spec member
  obtain ⟨checked, raw⟩ := exists_forall₂.mp ⟨others, later⟩ spec member
  exact accepted_alone_iff.mpr ⟨version, overrideSpec_accepted raw⟩

/-- Where every later spec is settled, all specs are normalised. -/
theorem normalised_of_settled (settled : ∀ spec ∈ rest, Settled spec) :
    overrideSpec .unset first :: rest = (first :: rest).map (overrideSpec .unset) := by
  rw [List.map_cons, List.map_congr_left fun spec member =>
    overrideSpec_unset_eq_self.mpr (settled spec member), List.map_id']

theorem independent_of_settled (settled : ∀ spec ∈ rest, Settled spec) :
    Independent cfgPath ⟨version, description, first :: rest⟩ where
  accepted := by
    refine ⟨accepted_alone, fun alone => ?_⟩
    have version : version = 1 := (accepted_alone_iff.mp (alone first List.mem_cons_self)).1
    obtain ⟨specs, pairs⟩ := exists_forall₂.mpr fun spec member =>
      (accepted_alone_iff.mp (alone spec member)).2
    refine ⟨_, load_eq_ok.mpr ⟨version, specs, ?_, rfl⟩⟩
    rw [normalised_of_settled settled, List.forall₂_map_left_iff]
    exact pairs
  results := by
    intro loaded ran
    obtain ⟨version, specs, pairs, rfl⟩ := load_eq_ok.mp ran
    rw [normalised_of_settled settled, List.forall₂_map_left_iff] at pairs
    refine pairs.imp ?_
    intro spec result accepted
    exact ⟨_, load_alone_eq_ok.mpr ⟨version, result, accepted, rfl⟩, rfl⟩

theorem settled_of_results {loaded : LoadProfile}
    (ran : load cfgPath ⟨version, description, first :: rest⟩ = .ok loaded)
    (results : List.Forall₂ (fun spec result => ∃ alone,
      load cfgPath ⟨version, description, [spec]⟩ = .ok alone ∧ alone.specs = [result])
      (first :: rest) loaded.specs) : ∀ spec ∈ rest, Settled spec := by
  obtain ⟨-, specs, pairs, rfl⟩ := load_eq_ok.mp ran
  obtain ⟨result, others, -, raw, rfl⟩ := List.forall₂_cons_left_iff.mp pairs
  obtain ⟨-, alone⟩ := List.forall₂_cons.mp results
  have both : List.Forall₂ (fun spec _ => Settled spec) rest others := by
    refine List.Forall₂.mp ?_ raw alone
    rintro spec result accepted ⟨_, ran, same⟩
    obtain ⟨-, _, normal, rfl⟩ := load_alone_eq_ok.mp ran
    cases same
    exact settled_of_same accepted normal
  intro spec member
  obtain ⟨-, settled⟩ := exists_forall₂.mp ⟨others, both⟩ spec member
  exact settled

/-- A profile loads as its specs load alone exactly if its version or one of its specs
is refused, after normalisation, or every spec after the first needs no normalisation. -/
theorem independent_iff (cfgPath description : String) (version : Int) (first : LoadProfileSpec)
    (rest : List LoadProfileSpec) :
    Independent cfgPath ⟨version, description, first :: rest⟩ ↔
      (version ≠ 1 ∨ ∃ spec ∈ first :: rest,
        ∀ valid, (overrideSpec .unset spec).validate ≠ .ok valid) ∨
      ∀ spec ∈ rest, Settled spec := by
  have refuses : (version ≠ 1 ∨ ∃ spec ∈ first :: rest,
        ∀ valid, (overrideSpec .unset spec).validate ≠ .ok valid) ↔
      ¬∀ spec ∈ first :: rest, Accepted cfgPath ⟨version, description, [spec]⟩ := by
    simp only [accepted_alone_iff, not_forall, not_and_or, not_exists, exists_prop]
    constructor
    · rintro (wrong | ⟨spec, member, refused⟩)
      · exact ⟨first, List.mem_cons_self, .inl wrong⟩
      · exact ⟨spec, member, .inr refused⟩
    · rintro ⟨spec, member, wrong | refused⟩
      · exact .inl wrong
      · exact .inr ⟨spec, member, refused⟩
  rw [refuses]
  constructor
  · intro independent
    by_cases alone : ∀ spec ∈ first :: rest, Accepted cfgPath ⟨version, description, [spec]⟩
    · obtain ⟨loaded, ran⟩ := independent.accepted.mpr alone
      exact .inr (settled_of_results ran (independent.results loaded ran))
    · exact .inl alone
  · rintro (refused | settled)
    · have rejected : ¬Accepted cfgPath ⟨version, description, first :: rest⟩ :=
        fun accepted => refused (accepted_alone accepted)
      refine ⟨iff_of_false rejected refused, fun loaded ran => ?_⟩
      exact absurd ⟨loaded, ran⟩ rejected
    · exact independent_of_settled settled

end Profile

def phase (total duration : Int) : LoadProfileSpec where
  rate := 10
  total := total
  duration := duration
  conns := 5
  client := 10
  contentType := .json
  disableHTTP2 := false
  maxRetries := 0
  requests := []

/-- Of two phases that give both stop conditions, only the first loses its
duration. -/
theorem laterPhase_keeps_duration :
    load "load.yaml" ⟨1, "", [phase 100 30, phase 100 30]⟩ =
        .ok ⟨1, "", [phase 100 0, phase 100 30]⟩ ∧
      load "load.yaml" ⟨1, "", [phase 100 30]⟩ = .ok ⟨1, "", [phase 100 0]⟩ ∧
      ¬Independent "load.yaml" ⟨1, "", [phase 100 30, phase 100 30]⟩ := by
  have together : load "load.yaml" ⟨1, "", [phase 100 30, phase 100 30]⟩ =
      .ok ⟨1, "", [phase 100 0, phase 100 30]⟩ := by decide +kernel
  have alone : load "load.yaml" ⟨1, "", [phase 100 30]⟩ = .ok ⟨1, "", [phase 100 0]⟩ := by
    decide +kernel
  refine ⟨together, alone, fun independent => ?_⟩
  obtain ⟨-, later⟩ := List.forall₂_cons.mp (independent.results _ together)
  obtain ⟨⟨one, ran, result⟩, -⟩ := List.forall₂_cons.mp later
  cases alone.symm.trans ran
  exact absurd result (by decide +kernel)

end Positions

end Kperf.Cmd.Runner
