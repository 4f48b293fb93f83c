import Kperf.Contrib.Bench
import Kperf.Contrib.ConfigmapsProperties
import Kperf.Request.Addressing

/-! The benchmark `read_update`. It has a set of config maps created by another
command, and its runners patch config maps by numbered names. -/

set_option autoImplicit false

namespace Kperf.Contrib.ReadUpdate

open Types Outcome Bench Configmaps Request

/-- The check of `benchReadUpdateRun` on its flags. The product is one of machine
integers. -/
def checkSizes (total size : Int) : Outcome Unit :=
  if total ≤ 0 ∨ size ≤ 0 ∨ 2 * 1024 * 1024 < mulInt64 total size ∨ 1024 < size then
    fail ("invalid total (" ++ toString total ++ ") or size (" ++ toString size ++
      ") for configmaps: total must be > 0, size must be > 0, and total*size must not exceed " ++
      "2 GiB, size must not exceed 1 MiB")
  else .ok ()

/-- The arguments of `runkperf data configmap add`. -/
structure AddArgs where
  name : String
  size : Int
  groupSize : Int
  total : Int
  deriving DecidableEq, Repr

/-- What `benchReadUpdateRun` passes on. -/
def addArgs (flags : Flags) : AddArgs where
  name := flags.namePattern
  size := flags.configmapSize
  groupSize := 2
  total := flags.configmapTotal

/-- The action of `runkperf data configmap add`. `prepared` is how making the client
and the namespace ends. -/
def configmapAdd (server : Server) (prepared : Outcome Unit) (args : AddArgs) (fuel : Nat)
    (stored : List ConfigMap) : Option (List ConfigMap × Outcome Unit) :=
  if Text.trimSpace args.name = "" then
    some (stored, fail "required non-empty configmap set name")
  else match checkConfigmapParams args.size args.groupSize args.total with
    | .error fault => some (stored, .error fault)
    | .ok () =>
        match prepared with
        | .error fault => some (stored, .error fault)
        | .ok () =>
            createConfigmaps server (Text.trimSpace args.name) args.size args.groupSize args.total
              fuel stored

/-- A name that `Build` of a patch request can address, for some draw. -/
def Generates (profile : LoadProfile) (name : String) : Prop :=
  ∃ spec ∈ profile.specs, ∃ request, some request ∈ spec.requests ∧
    ∃ builder, newBuilder spec.maxRetries request = .ok (.patch builder) ∧
      ∃ drawn requester, builder.build drawn = .ok requester ∧
        requester.call.path.getLast? = some name

def staleConfigmaps : RequestList := ⟨⟨"", "v1", "configmaps"⟩, "default", 0, "", ""⟩

def patchConfigmaps : RequestPatch where
  kube := ⟨"", "v1", "configmaps"⟩
  namespace_ := "default"
  name := "runkperf-cm-kperf-read-update"
  keySpaceSize := 100
  patchType := "merge"
  body := "\x7b\n  \"metadata\": \x7b\n    \"labels\": \x7b\n      \"test-label\": " ++
    "\"mutation-test\"\n    \x7d\n  \x7d\n\x7d\n"

def readUpdateSpec : LoadProfileSpec where
  rate := 10
  total := 3000
  duration := 0
  conns := 10
  client := 10
  contentType := .json
  disableHTTP2 := false
  maxRetries := 0
  requests :=
    [some ⟨50, some staleConfigmaps, none, none, none, none, none, none, none, none⟩,
     some ⟨50, none, none, none, none, none, none, some patchConfigmaps, none, none⟩]

/-- The file `loadprofile/read_update.yaml`. -/
def readUpdate : RunnerGroupSpec where
  count := 10
  profile := some ⟨1, "read_update", [readUpdateSpec]⟩
  nodeAffinity := ∅
  serviceAccount := none
  ownerReference := none

section Names

variable {flags : Flags} {tweaked : RunnerGroupSpec} {profile : LoadProfile}

/-- The names of a patch builder are numbered up to the size of its key space. -/
theorem build_names_iff {builder : PatchBuilder} {name : String} :
    (∃ drawn requester, builder.build drawn = .ok requester ∧
        requester.call.path.getLast? = some name) ↔
      ∃ j ∈ indices 0 builder.src.keySpaceSize, builder.src.name ++ "-" ++ toString j = name := by
  constructor
  · intro generated
    obtain ⟨drawn, requester, built, last⟩ := generated
    have positive : 0 < builder.src.keySpaceSize := by
      obtain ⟨suffix, drew, -⟩ := bind_eq_ok.mp built
      exact (randInt_ok_iff _ drawn).mp ⟨suffix, drew⟩
    rw [PatchBuilder.build_path built, List.getLast?_append] at last
    refine ⟨drawn % builder.src.keySpaceSize, mem_indices.mpr ⟨?_, ?_⟩, Option.some.inj last⟩
    · exact Int.emod_nonneg _ positive.ne'
    · exact Int.emod_lt_of_pos _ positive
  · intro numbered
    obtain ⟨j, member, rfl⟩ := numbered
    obtain ⟨low, high⟩ := mem_indices.mp member
    obtain ⟨suffix, drew⟩ := (randInt_ok_iff builder.src.keySpaceSize j.toNat).mpr (by omega)
    obtain ⟨requester, built⟩ : ∃ requester, builder.build j.toNat = .ok requester :=
      ⟨_, bind_eq_ok.mpr ⟨suffix, drew, rfl⟩⟩
    refine ⟨j.toNat, requester, built, ?_⟩
    rw [PatchBuilder.build_path built, List.getLast?_append, numberedName, Int.toNat_of_nonneg low,
      Int.emod_eq_of_lt low high]
    rfl

theorem tweakRequest_readUpdate (flags : Flags) :
    ∃ reads patches, readUpdateSpec.requests.mapM (tweakRequest flags) = .ok
      [some ⟨reads, some (flags.tweakStaleList staleConfigmaps), none, none, none, none, none, none,
          none, none⟩,
       some ⟨patches, none, none, none, none, none, none, some (flags.tweakPatch patchConfigmaps),
          none, none⟩] :=
  ⟨_, _, rfl⟩

theorem configmapName_eq (pattern : String) (j : Int) :
    configmapName pattern j = "runkperf-cm-" ++ pattern ++ "-" ++ toString j := by
  have lead : appLebel ++ "-cm-" = "runkperf-cm-" := by decide
  rw [configmapName, lead]

/-- The runners patch the names that are numbered up to the number of config maps. -/
theorem generates_iff (command : flags.command = "read_update") (pattern : flags.namePattern ≠ "")
    (positive : 0 < flags.configmapTotal)
    (produced : newLoadProfileFromEmbed flags readUpdate = .ok tweaked)
    (written : tweaked.profile = some profile) {name : String} :
    Generates profile name ↔
      ∃ j ∈ indices 0 flags.configmapTotal, configmapName flags.namePattern j = name := by
  obtain ⟨requests, written', ran⟩ := newLoadProfileFromEmbed_ok rfl produced
  rw [if_pos command] at ran
  obtain ⟨reads, patches, tweaks⟩ := tweakRequest_readUpdate flags
  cases tweaks.symm.trans ran
  cases written.symm.trans written'
  have names (j : Int) : configmapName flags.namePattern j =
      (flags.tweakPatch patchConfigmaps).name ++ "-" ++ toString j := by
    rw [configmapName_eq, Flags.tweakPatch, if_pos pattern]
  have range : (flags.tweakPatch patchConfigmaps).keySpaceSize = flags.configmapTotal :=
    if_pos positive
  simp only [names, ← range]
  constructor
  · intro generated
    obtain ⟨spec, here, request, member, builder, chosen, drawn⟩ := generated
    cases List.mem_singleton.mp here
    rcases List.mem_pair.mp member with first | second
    · cases first
      cases chosen
    · cases second
      cases chosen
      exact build_names_iff.mp drawn
  · intro numbered
    exact ⟨_, List.mem_singleton_self _, _, List.mem_pair.mpr (.inr rfl), _, rfl,
      build_names_iff.mpr numbered⟩

end Names

section Created

variable {flags : Flags} {tweaked : RunnerGroupSpec} {profile : LoadProfile}

theorem checkSizes_eq_ok {total size : Int} :
    checkSizes total size = .ok () ↔
      0 < total ∧ 0 < size ∧ mulInt64 total size ≤ 2 * 1024 * 1024 ∧ size ≤ 1024 := by
  rw [checkSizes, guard_eq_ok]
  simp

theorem configmapAdd_ok {server : Server} {prepared : Outcome Unit} {args : AddArgs} {fuel : Nat}
    {stored after : List ConfigMap} (machine : args.total < 2 ^ 63)
    (ran : configmapAdd server prepared args fuel stored = some (after, .ok ())) :
    after.Perm (stored ++ (indices 0 args.total).map
      (server.item (Text.trimSpace args.name) args.size args.groupSize)) := by
  unfold configmapAdd at ran
  split at ran
  · cases ran
  · split at ran
    · cases ran
    · rename_i accepted
      obtain ⟨-, positive, -, within⟩ := checkConfigmapParams_eq_ok.mp accepted
      split at ran
      · cases ran
      · exact (createConfigmaps_ok positive within machine ran).items

/-- The benchmark patches exactly the config maps that it has created, if it has at
least as many of them as it puts into a group. -/
theorem patches_created_iff (command : flags.command = "read_update")
    (pattern : flags.namePattern ≠ "")
    (trimmed : Text.trimSpace flags.namePattern = flags.namePattern)
    (machine : flags.configmapTotal < 2 ^ 63)
    (produced : newLoadProfileFromEmbed flags readUpdate = .ok tweaked)
    (written : tweaked.profile = some profile)
    (accepted : checkSizes flags.configmapTotal flags.configmapSize = .ok ()) :
    (checkConfigmapParams (addArgs flags).size (addArgs flags).groupSize (addArgs flags).total =
        .ok () ∧
      ∀ server prepared fuel stored after,
        configmapAdd server prepared (addArgs flags) fuel stored = some (after, .ok ()) →
          ∃ created, after.Perm (stored ++ created) ∧
            ∀ name, Generates profile name ↔ name ∈ created.map ConfigMap.name) ↔
      2 ≤ flags.configmapTotal := by
  obtain ⟨positive, sized, -, -⟩ := checkSizes_eq_ok.mp accepted
  constructor
  · intro passed
    obtain ⟨-, -, -, within⟩ := checkConfigmapParams_eq_ok.mp passed.1
    exact within
  · intro enough
    refine ⟨checkConfigmapParams_eq_ok.mpr ⟨sized, (by decide : (0 : Int) < 2), positive, enough⟩, ?_⟩
    intro server prepared fuel stored after ran
    refine ⟨_, configmapAdd_ok machine ran, fun name => ?_⟩
    rw [generates_iff command pattern positive produced written, List.map_map, List.mem_map]
    simp only [Function.comp_apply, addArgs, trimmed]
    rfl

end Created

/-- The default flags of the command, with another number of config maps and another
size. -/
def readUpdateFlags (total size : Int) : Flags where
  command := "read_update"
  total := none
  totalDefault := 3600
  duration := 0
  rgAffinity := "node.kubernetes.io/instance-type=Standard_D16s_v3,m4.4xlarge,n1-standard-16"
  contentType := "json"
  namePattern := "kperf-read-update"
  readRatio := 1 / 2
  namespace_ := "default"
  configmapTotal := total
  configmapSize := size

theorem readUpdate_produced (flags : Flags)
    (returns : (newLoadProfileFromEmbed flags readUpdate).toBool = true) :
    ∃ tweaked profile, newLoadProfileFromEmbed flags readUpdate = .ok tweaked ∧
      tweaked.profile = some profile := by
  cases produced : newLoadProfileFromEmbed flags readUpdate with
  | error fault =>
      rw [produced] at returns
      cases returns
  | ok tweaked =>
      obtain ⟨requests, written, -⟩ := newLoadProfileFromEmbed_ok rfl produced
      exact ⟨tweaked, _, rfl, written⟩

theorem patches_created_iff_two :
    ∃ tweaked profile after,
      newLoadProfileFromEmbed (readUpdateFlags 2 1) readUpdate = .ok tweaked ∧
      tweaked.profile = some profile ∧
      configmapAdd reliable (.ok ()) (addArgs (readUpdateFlags 2 1)) 2 [] =
        some (after, .ok ()) ∧
      ∃ created, after.Perm ([] ++ created) ∧
        ∀ name, Generates profile name ↔ name ∈ created.map ConfigMap.name := by
  obtain ⟨tweaked, profile, produced, written⟩ :=
    readUpdate_produced (readUpdateFlags 2 1) (by decide +kernel)
  have created : configmapAdd reliable (.ok ()) (addArgs (readUpdateFlags 2 1)) 2 [] =
      some (_, .ok ()) := rfl
  have covers := (patches_created_iff rfl (by decide) (by decide +kernel) (by decide) produced
    written rfl).mpr (by decide)
  exact ⟨tweaked, profile, _, produced, written, created, covers.2 _ _ _ _ _ created⟩

/-- One config map passes the check of the benchmark, and the command that is to
create it refuses the arguments, since a group would be larger than the set. -/
theorem oneConfigmap_refused :
    checkSizes 1 1024 = .ok () ∧
      checkConfigmapParams (addArgs (readUpdateFlags 1 1024)).size
          (addArgs (readUpdateFlags 1 1024)).groupSize
          (addArgs (readUpdateFlags 1 1024)).total =
        fail "group-size must be less than or equal to total" ∧
      ∀ server prepared fuel stored,
        configmapAdd server prepared (addArgs (readUpdateFlags 1 1024)) fuel stored =
          some (stored, fail "group-size must be less than or equal to total") := by
  refine ⟨rfl, rfl, fun server prepared fuel stored => ?_⟩
  have named : Text.trimSpace (addArgs (readUpdateFlags 1 1024)).name ≠ "" := by decide +kernel
  unfold configmapAdd
  rw [if_neg named]
  rfl

end Kperf.Contrib.ReadUpdate
