import Kperf.Types.LoadTrafficEncoding

/-! The way of a load profile from the benchmark's spec to the runner: written
by the json tags into a file, read by the yaml tags, written and read by the yaml
tags for the runner group's server, and once more, the profile alone, for the
runners. The libraries give back the trees they are given. -/

set_option autoImplicit false

namespace Kperf.Runner

open Types Tagged

def runnerGroupServerReleaseName : String := "runnergroup-server"

/-- What `NewRunnerGroupSpecFileFromEmbed` writes. -/
def marshalSpecFile (nilSlice : List String → Bool) (spec : RunnerGroupSpec) : Tree :=
  RunnerGroupSpec.codec.encode ⟨.json, nilSlice⟩ spec

def parseRunnerGroupSpecFromBinary (data : Tree) : Option RunnerGroupSpec :=
  RunnerGroupSpec.codec.read data

def tweakSpec (spec : RunnerGroupSpec) : RunnerGroupSpec :=
  { spec with
    serviceAccount := some (spec.serviceAccount.getD runnerGroupServerReleaseName) }

def tweakAndMarshalSpec (nilSlice : List String → Bool) (spec : RunnerGroupSpec) : Tree :=
  RunnerGroupSpec.codec.encode ⟨.yaml, nilSlice⟩ (tweakSpec spec)

/-- The data of the config map that `uploadLoadProfileAsConfigMap` creates. -/
def marshalLoadProfile (nilSlice : List String → Bool) (spec : RunnerGroupSpec) : Tree :=
  (Codec.pointer LoadProfile.codec).encode ⟨.yaml, nilSlice⟩ spec.profile

/-- What `loadConfig` reads, before the flags override it. -/
def unmarshalLoadProfile (data : Tree) : Option LoadProfile := LoadProfile.codec.read data

/-- The whole way. Each writer has its own nil slices. -/
def deliverLoadProfile (file server runner : List String → Bool) (spec : RunnerGroupSpec) :
    Option LoadProfile := do
  let parsed ← parseRunnerGroupSpecFromBinary (marshalSpecFile file spec)
  let served ← parseRunnerGroupSpecFromBinary (tweakAndMarshalSpec server parsed)
  unmarshalLoadProfile (marshalLoadProfile runner served)

theorem unmarshal_marshalLoadProfile (nilSlice : List String → Bool) (spec : RunnerGroupSpec) :
    unmarshalLoadProfile (marshalLoadProfile nilSlice spec) =
      some (spec.profile.getD LoadProfile.zero) := by
  unfold marshalLoadProfile
  cases spec.profile with
  | none => rfl
  | some profile => exact LoadProfile.codec.read_eq _ profile

/-- Every load profile arrives as it was written; no profile arrives as the
empty one. -/
theorem loadProfile_delivered (file server runner : List String → Bool) (spec : RunnerGroupSpec) :
    deliverLoadProfile file server runner spec = some (spec.profile.getD LoadProfile.zero) := by
  have parsed : parseRunnerGroupSpecFromBinary (marshalSpecFile file spec) = some spec :=
    RunnerGroupSpec.codec.read_eq _ spec
  have served : parseRunnerGroupSpecFromBinary (tweakAndMarshalSpec server spec) =
      some (tweakSpec spec) :=
    RunnerGroupSpec.codec.read_eq _ (tweakSpec spec)
  rw [deliverLoadProfile, parsed, Option.bind_eq_bind, Option.bind_some, served, Option.bind_some,
    unmarshal_marshalLoadProfile]
  rfl

/-- The two sets of tags differ for an empty description and for no profile. -/
example : marshalSpecFile (fun _ => true) ⟨2, some ⟨1, "", []⟩, ∅, none, none⟩ =
    .map [("count", .number 2),
      ("loadProfile", .map [("version", .number 1), ("specs", .null)])] := by
  rfl

end Kperf.Runner
