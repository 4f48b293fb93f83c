import Kperf.Runner.Deployment

/-! What deployments do to the cluster, over all processes: they only add objects,
each under the name of its group and built by that group's handler, and a job only
where its runners find a load profile. -/

set_option autoImplicit false

namespace Kperf.Runner.Deployment

open Types Outcome

/-- What is there stays as it is. -/
structure Cluster.Keeps (cluster later : Cluster) : Prop where
  configMaps : ∀ {key object}, cluster.configMaps key = some object →
    later.configMaps key = some object
  jobs : ∀ {key job}, cluster.jobs key = some job → later.jobs key = some job

theorem Cluster.Keeps.refl (cluster : Cluster) : cluster.Keeps cluster := ⟨id, id⟩

theorem Cluster.Keeps.trans {first second third : Cluster} (earlier : first.Keeps second)
    (later : second.Keeps third) : first.Keeps third :=
  ⟨fun found => later.configMaps (earlier.configMaps found),
    fun found => later.jobs (earlier.jobs found)⟩

/-- The runners of the group of that name can mount a load profile. -/
def HasProfile (cluster : Cluster) (key : ObjectKey) : Prop :=
  ∃ cm, cluster.configMaps key = some cm ∧ configMapDataKeyLoadProfile ∈ cm.data

theorem HasProfile.keep {cluster later : Cluster} {key : ObjectKey}
    (has : HasProfile cluster key) (keeps : cluster.Keeps later) : HasProfile later key := by
  obtain ⟨cm, found, present⟩ := has
  exact ⟨cm, keeps.configMaps found, present⟩

/-- Both objects of the group are there. -/
def Ready (cluster : Cluster) (handler : Handler) : Prop :=
  HasProfile cluster handler.key ∧ ∃ job, cluster.jobs handler.key = some job

theorem Ready.keep {cluster later : Cluster} {handler : Handler} (ready : Ready cluster handler)
    (keeps : cluster.Keeps later) : Ready later handler := by
  obtain ⟨has, job, found⟩ := ready
  exact ⟨has.keep keeps, job, keeps.jobs found⟩

namespace Setting

variable (setting : Setting)

/-- The config map that the group of that name uploads. -/
def Uploads (key : ObjectKey) (object : ConfigMap) : Prop :=
  ∃ handler ∈ setting.groups, handler.key = key ∧
    ∃ raw, setting.marshal handler.spec.profile = .ok raw ∧
      object = handler.loadProfileConfigMap raw

/-- A job that the group of that name deploys. -/
def Deploys (key : ObjectKey) (job : BatchJob) : Prop :=
  ∃ handler ∈ setting.groups, handler.key = key ∧
    ∃ order uploadURL, setting.uploadURL = .ok uploadURL ∧
      job = handler.buildBatchJobObject order uploadURL

end Setting

/-- A request that a group may have sent to this cluster. -/
def Request.Due (setting : Setting) (cluster : Cluster) : Request → Prop
  | .configMap key object => setting.Uploads key object
  | .job key object => setting.Deploys key object ∧ HasProfile cluster key

theorem Request.Due.keep {setting : Setting} {cluster later : Cluster} {request : Request}
    (due : request.Due setting cluster) (keeps : cluster.Keeps later) :
    request.Due setting later := by
  cases request with
  | configMap key object => exact due
  | job key job => exact ⟨due.1, due.2.keep keeps⟩

namespace Request

theorem land_configMap {cluster : Cluster} {key : ObjectKey} {object : ConfigMap}
    (free : cluster.configMaps key = none) :
    (Request.configMap key object).land cluster =
      { cluster with configMaps := Function.update cluster.configMaps key (some object) } := by
  simp [land, create, free]

theorem land_job {cluster : Cluster} {key : ObjectKey} {job : BatchJob}
    (free : cluster.jobs key = none) :
    (Request.job key job).land cluster =
      { cluster with jobs := Function.update cluster.jobs key (some job) } := by
  simp [land, create, free]

/-- A request adds its object or changes nothing. -/
theorem land_cases (cluster : Cluster) (request : Request) :
    request.land cluster = cluster ∨
      (∃ key object, request = .configMap key object ∧ cluster.configMaps key = none ∧
        request.land cluster =
          { cluster with configMaps := Function.update cluster.configMaps key (some object) }) ∨
      ∃ key job, request = .job key job ∧ cluster.jobs key = none ∧
        request.land cluster =
          { cluster with jobs := Function.update cluster.jobs key (some job) } := by
  cases request with
  | configMap key object =>
      cases found : cluster.configMaps key with
      | none => exact .inr (.inl ⟨key, object, rfl, found, land_configMap found⟩)
      | some other => exact .inl (by simp [land, create, found])
  | job key job =>
      cases found : cluster.jobs key with
      | none => exact .inr (.inr ⟨key, job, rfl, found, land_job found⟩)
      | some other => exact .inl (by simp [land, create, found])

theorem land_keeps (cluster : Cluster) (request : Request) :
    cluster.Keeps (request.land cluster) := by
  have added : ∀ {Value : Type} {objects : ObjectKey → Option Value} {key other : ObjectKey}
      {value old : Value}, objects key = none → objects other = some old →
        Function.update objects key (some value) other = some old := by
    intro Value objects key other value old free found
    rw [Function.update_of_ne, found]
    intro same
    rw [same, free] at found
    cases found
  rcases land_cases cluster request with same | ⟨key, object, -, free, moved⟩ | ⟨key, job, -, free, moved⟩
  · rw [same]
    exact .refl cluster
  · rw [moved]
    exact ⟨fun found => added free found, id⟩
  · rw [moved]
    exact ⟨id, fun found => added free found⟩

end Request

/-- Every object of the cluster was there before, or a group made it. -/
structure Grown (setting : Setting) (before cluster : Cluster) : Prop where
  kept : before.Keeps cluster
  configMaps : ∀ {key object}, cluster.configMaps key = some object →
    before.configMaps key = some object ∨ setting.Uploads key object
  jobs : ∀ {key job}, cluster.jobs key = some job →
    before.jobs key = some job ∨ setting.Deploys key job ∧ HasProfile cluster key

theorem grown_refl (setting : Setting) (before : Cluster) : Grown setting before before :=
  ⟨.refl before, .inl, .inl⟩

theorem Grown.land {setting : Setting} {before cluster : Cluster} {request : Request}
    (grown : Grown setting before cluster) (due : request.Due setting cluster) :
    Grown setting before (request.land cluster) := by
  have keeps := request.land_keeps cluster
  have jobs : ∀ {key job}, cluster.jobs key = some job → before.jobs key = some job ∨
      setting.Deploys key job ∧ HasProfile (request.land cluster) key := by
    intro key job found
    rcases grown.jobs found with old | ⟨deploys, has⟩
    · exact .inl old
    · exact .inr ⟨deploys, has.keep keeps⟩
  rcases Request.land_cases cluster request with
    same | ⟨key, object, rfl, -, moved⟩ | ⟨key, job, rfl, -, moved⟩
  · rw [same]
    exact grown
  · refine ⟨grown.kept.trans keeps, ?_, ?_⟩
    · intro other found present
      simp only [moved, Function.update_apply] at present
      split at present
      · subst other
        cases present
        exact .inr due
      · exact grown.configMaps present
    · intro other found present
      rw [moved] at present
      exact jobs present
  · refine ⟨grown.kept.trans keeps, ?_, ?_⟩
    · intro other found present
      rw [moved] at present
      exact grown.configMaps present
    · intro other found present
      simp only [moved, Function.update_apply] at present
      split at present
      · subst other
        cases present
        exact .inr ⟨due.1, due.2.keep keeps⟩
      · exact jobs present

/-- What a goroutine has made sure of when it stands at a point. -/
def Stands (setting : Setting) (cluster : Cluster) (handler : Handler) : Goroutine Point → Prop
  | .running .getConfigMap => True
  | .running (.createConfigMap raw) => setting.marshal handler.spec.profile = .ok raw
  | .running .getJob => HasProfile cluster handler.key
  | .running (.createJob job) => HasProfile cluster handler.key ∧
      ∃ order uploadURL, setting.uploadURL = .ok uploadURL ∧
        job = handler.buildBatchJobObject order uploadURL
  | .returned none => Ready cluster handler
  | .returned (some _) => True
  | .exited => True

theorem Stands.keep {setting : Setting} {cluster later : Cluster} {handler : Handler}
    {deploy : Goroutine Point} (stands : Stands setting cluster handler deploy)
    (keeps : cluster.Keeps later) : Stands setting later handler deploy := by
  cases deploy with
  | running point =>
      cases point with
      | getConfigMap | createConfigMap => exact stands
      | getJob => exact HasProfile.keep stands keeps
      | createJob job => exact ⟨stands.1.keep keeps, stands.2⟩
  | returned err =>
      cases err with
      | none => exact Ready.keep stands keeps
      | some err => trivial
  | exited => trivial

theorem Stands.due {setting : Setting} {cluster : Cluster} {handler : Handler}
    {deploy : Goroutine Point} {sent : Request} (configured : handler ∈ setting.groups)
    (stands : Stands setting cluster handler deploy) (sending : request handler deploy = some sent) :
    sent.Due setting cluster := by
  cases deploy with
  | running point =>
      cases point with
      | getConfigMap | getJob => cases sending
      | createConfigMap raw =>
          cases sending
          exact ⟨handler, configured, rfl, raw, stands, rfl⟩
      | createJob job =>
          cases sending
          obtain ⟨has, order, uploadURL, url, built⟩ := stands
          exact ⟨⟨handler, configured, rfl, order, uploadURL, url, built⟩, has⟩
  | returned err => cases sending
  | exited => cases sending

/-- The processes and the requests they left behind, over the cluster. -/
structure Sound (setting : Setting) (before : Cluster) (state : State) : Prop where
  grown : Grown setting before state.cluster
  pending : ∀ request ∈ state.pending, request.Due setting state.cluster
  stands : ∀ {idx handler}, setting.groups[idx]? = some handler →
    Stands setting state.cluster handler (state.deploys idx)
  results : ∀ {idx handler}, setting.groups[idx]? = some handler →
    (idx, none) ∈ state.results → Ready state.cluster handler
  running : ∀ {idx}, state.deploys idx ≠ .exited →
    ∃ next, state.main = .spawning next ∧ idx < next ∧ next ≤ setting.groups.length
  url : ∀ {next}, state.main = .spawning next → setting.uploadURL = .ok state.uploadURL

theorem sound_boot {setting : Setting} {before cluster : Cluster} {pending : List Request}
    (grown : Grown setting before cluster)
    (due : ∀ request ∈ pending, request.Due setting cluster) :
    Sound setting before (.boot cluster pending) where
  grown := grown
  pending := due
  stands := fun _ => trivial
  results := fun _ member => absurd member List.not_mem_nil
  running := fun moves => absurd rfl moves
  url := fun booting => by cases booting

section Steps

variable {setting : Setting} {before : Cluster} {state next : State} {label : Label}

/-- One goroutine moves on. -/
theorem Sound.advance (sound : Sound setting before state) {idx : Nat} {handler : Handler}
    {updated : Goroutine Point} (found : setting.groups[idx]? = some handler)
    (moves : state.deploys idx ≠ .exited)
    (deploys : next.deploys = Function.update state.deploys idx updated)
    (main : next.main = state.main) (url : next.uploadURL = state.uploadURL)
    (grown : Grown setting before next.cluster) (keeps : state.cluster.Keeps next.cluster)
    (pending : ∀ request ∈ next.pending, request.Due setting next.cluster)
    (stands : Stands setting next.cluster handler updated)
    (results : ∀ {other}, (other, none) ∈ next.results →
      (other, none) ∈ state.results ∨ other = idx ∧ Ready next.cluster handler) :
    Sound setting before next where
  grown := grown
  pending := pending
  stands := by
    intro other group known
    rw [deploys, Function.update_apply]
    split
    · subst other
      rw [found] at known
      cases known
      exact stands
    · exact (sound.stands known).keep keeps
  results := by
    intro other group known ended
    rcases results ended with earlier | ⟨rfl, ready⟩
    · exact (sound.results known earlier).keep keeps
    · rw [found] at known
      cases known
      exact ready
  running := by
    intro other alive
    rw [main]
    rw [deploys, Function.update_apply] at alive
    split at alive
    · subst other
      exact sound.running moves
    · exact sound.running alive
  url := by
    intro position standing
    rw [url]
    exact sound.url (main ▸ standing)

/-- A goroutine moves on and the rest of the state stays. -/
theorem Sound.setDeploy (sound : Sound setting before state) {idx : Nat} {handler : Handler}
    {updated : Goroutine Point} (found : setting.groups[idx]? = some handler)
    (moves : state.deploys idx ≠ .exited)
    (stands : Stands setting state.cluster handler updated) :
    Sound setting before (state.setDeploy idx updated) :=
  sound.advance found moves rfl rfl rfl sound.grown (.refl _) sound.pending stands .inl

/-- A goroutine creates an object. -/
theorem Sound.created (sound : Sound setting before state) {idx : Nat} {handler : Handler}
    {deploy : Goroutine Point} (updated : Goroutine Point) {sent : Request}
    (found : setting.groups[idx]? = some handler) (stood : state.deploys idx = deploy)
    (sending : request handler deploy = some sent)
    (stands : Stands setting (sent.land state.cluster) handler updated) :
    Sound setting before
      ({ state with cluster := sent.land state.cluster }.setDeploy idx updated) := by
  have due := (stood ▸ sound.stands found).due (List.mem_of_getElem? found) sending
  have keeps := sent.land_keeps state.cluster
  have moves : state.deploys idx ≠ .exited := by
    intro ended
    rw [← stood, ended] at sending
    cases sending
  exact sound.advance found moves rfl rfl rfl (sound.grown.land due) keeps
    (fun request member => (sound.pending request member).keep keeps) stands .inl

theorem DeployMove.sound {idx : Nat} {handler : Handler}
    (move : DeployMove setting state idx handler (state.deploys idx) label next)
    (found : setting.groups[idx]? = some handler) (sound : Sound setting before state) :
    Sound setting before next := by
  have stood := sound.stands found
  have moves : state.deploys idx ≠ .exited := by
    intro ended
    rw [ended] at move
    cases move
  generalize position : state.deploys idx = deploy at move stood
  cases move with
  | refused | lacking | unmarshalled | uploadTaken | deployTaken =>
      exact sound.setDeploy found moves trivial
  | @abandoned point _ err sent _ sending =>
      refine sound.advance found moves rfl rfl rfl sound.grown (.refl _) ?_ trivial .inl
      intro request member
      rcases List.mem_append.mp member with old | new
      · exact sound.pending request old
      · cases List.mem_singleton.mp new
        exact stood.due (List.mem_of_getElem? found) sending
  | uploaded present has => exact sound.setDeploy found moves ⟨_, present, has⟩
  | marshalled _ written => exact sound.setDeploy found moves written
  | @upload _ raw free =>
      have landed := sound.created (.running .getJob) found position rfl
      rw [Request.land_configMap free] at landed
      refine landed ⟨handler.loadProfileConfigMap raw, Function.update_self .., ?_⟩
      exact AList.mem_keys.mpr (List.mem_singleton_self _)
  | deployed present => exact sound.setDeploy found moves ⟨stood, _, present⟩
  | build =>
      obtain ⟨position, spawning, -⟩ := sound.running moves
      exact sound.setDeploy found moves ⟨stood, _, _, sound.url spawning, rfl⟩
  | @deploy _ job free =>
      have keeps := (Request.job handler.key job).land_keeps state.cluster
      have landed := sound.created (.returned none) found position rfl
      rw [Request.land_job free] at landed keeps
      exact landed ⟨stood.1.keep keeps, job, Function.update_self ..⟩
  | @send _ err =>
      refine sound.advance found moves rfl rfl rfl sound.grown (.refl _) sound.pending trivial ?_
      intro other ended
      rcases List.mem_append.mp ended with old | new
      · exact .inl old
      · cases List.mem_singleton.mp new
        exact .inr ⟨rfl, stood⟩

theorem MainMove.sound (move : MainMove setting state state.main next)
    (sound : Sound setting before state) : Sound setting before next := by
  have idle : ∀ {main : Main}, state.main = main → (∀ next, main ≠ .spawning next) →
      ∀ idx, state.deploys idx = .exited := by
    intro main standing other idx
    by_contra alive
    obtain ⟨next, spawning, -⟩ := sound.running alive
    exact other next (standing ▸ spawning)
  generalize position : state.main = main at move
  cases move with
  | begin url =>
      have ended := idle position (by simp)
      refine { sound with running := ?_, url := fun _ => url }
      intro idx alive
      exact absurd (ended idx) alive
  | noAddress | skip | fail | finish =>
      have ended := idle position (by simp)
      refine { sound with running := ?_, url := ?_ }
      · intro idx alive
        exact absurd (ended idx) alive
      · intro next spawning
        simp [position] at spawning
  | @spawn count below =>
      refine { sound with stands := ?_, running := ?_, url := fun _ => sound.url position }
      · intro idx handler found
        simp only [State.setDeploy, Function.update_apply]
        split
        · trivial
        · exact sound.stands found
      · intro idx alive
        refine ⟨count + 1, rfl, ?_, below⟩
        simp only [State.setDeploy, Function.update_apply] at alive
        split at alive
        · omega
        · obtain ⟨next, spawning, started, -⟩ := sound.running alive
          rw [position] at spawning
          cases spawning
          omega
  | join exited =>
      refine { sound with running := ?_, url := fun draining => by cases draining }
      intro idx alive
      obtain ⟨next, -, started, bound⟩ := sound.running alive
      exact absurd (exited idx (by omega)) alive

theorem orphans_due (sound : Sound setting before state) (sent : List Nat) :
    ∀ request ∈ orphans setting state sent, request.Due setting state.cluster := by
  intro orphan member
  obtain ⟨idx, -, made⟩ := List.mem_filterMap.mp member
  obtain ⟨handler, found, sending⟩ := Option.bind_eq_some_iff.mp made
  exact (sound.stands found).due (List.mem_of_getElem? found) sending

theorem Sound.keep (sound : Sound setting before state)
    (stepped : step setting state label = some next) : Sound setting before next := by
  cases step_transition stepped with
  | deploy found move => exact move.sound found sound
  | main _ move => exact move.sound sound
  | @land position request waiting =>
      have due := sound.pending request (List.mem_of_getElem? waiting)
      have keeps := request.land_keeps state.cluster
      exact {
        grown := sound.grown.land due
        pending := fun other member =>
          (sound.pending other (List.mem_of_mem_eraseIdx member)).keep keeps
        stands := fun found => (sound.stands found).keep keeps
        results := fun found ended => (sound.results found ended).keep keeps
        running := sound.running
        url := sound.url }
  | crash =>
      refine sound_boot sound.grown fun request member => ?_
      rcases List.mem_append.mp member with old | new
      · exact sound.pending request old
      · exact orphans_due sound _ request new

end Steps

theorem sound_of_run {setting : Setting} {before : Cluster} {trace : List Label} {state : State}
    (run : (system setting before).Run trace state) : Sound setting before state := by
  refine run.invariant ?_ fun _ stepped sound => sound.keep stepped
  intro state initial
  rw [initial]
  exact sound_boot (grown_refl setting before) (List.forall_mem_nil _)

/-- The kubelet, as far as it gives the runner of a job its files: the directory of a mount
whose volume is a config map holds the data of that. -/
structure VolumeManager where
  readFile : Cluster → BatchJob → (mountPath file : String) → Option String
  mounted : ∀ {cluster : Cluster} {job : BatchJob} {container : Container} {mount : VolumeMount}
    {name : String} {cm : ConfigMap} (file : String),
    job.podSpec.containers = [container] →
    (container.volumeMounts.map VolumeMount.mountPath).Nodup → mount ∈ container.volumeMounts →
    (job.podSpec.volumes.map Volume.name).Nodup →
    ⟨mount.name, .configMap name⟩ ∈ job.podSpec.volumes →
    cluster.configMaps (job.namespace_, name) = some cm →
    readFile cluster job mount.mountPath file = cm.data.lookup file

theorem readFile_buildBatchJobObject (kubelet : VolumeManager) {cluster : Cluster}
    {handler : Handler} {cm : ConfigMap} (stored : cluster.configMaps handler.key = some cm)
    (order : RangeOrder) (uploadURL file : String) :
    kubelet.readFile cluster (handler.buildBatchJobObject order uploadURL) "/config" file =
      cm.data.lookup file := by
  have mount : (⟨"config", "/config"⟩ : VolumeMount) ∈ (handler.runner uploadURL).volumeMounts :=
    List.mem_cons_self
  have volume : (⟨"config", .configMap handler.name⟩ : Volume) ∈
      (handler.buildBatchJobObject order uploadURL).podSpec.volumes := List.mem_cons_self
  exact kubelet.mounted file rfl (by simp [Handler.runner]) mount
    (by simp [Handler.buildBatchJobObject]) volume stored

/-- What every process, running or dead, may have done to the cluster. -/
structure Safe (setting : Setting) (kubelet : VolumeManager) (before : Cluster) (state : State) :
    Prop where
  kept : before.Keeps state.cluster
  /-- no step replaces or removes an object -/
  steps : ∀ {label next}, step setting state label = some next → state.cluster.Keeps next.cluster
  configMaps : ∀ {key object}, state.cluster.configMaps key = some object →
    before.configMaps key = none → setting.Uploads key object
  jobs : ∀ {key job}, state.cluster.jobs key = some job → before.jobs key = none →
    setting.Deploys key job ∧ HasProfile state.cluster key
  /-- the runners of a group read, where their script looks for it, the load profile of
  the spec of their group -/
  profile : ∀ {key job}, state.cluster.jobs key = some job → before.jobs key = none →
    before.configMaps key = none →
    ∃ handler ∈ setting.groups, handler.key = key ∧ job.completions = handler.spec.count ∧
      ∃ raw, setting.marshal handler.spec.profile = .ok raw ∧
        kubelet.readFile state.cluster job "/config" "load_profile.yaml" = some raw

theorem step_keeps {setting : Setting} {state next : State} {label : Label}
    (stepped : step setting state label = some next) : state.cluster.Keeps next.cluster := by
  cases step_transition stepped with
  | @deploy idx handler _ _ found move =>
      generalize state.deploys idx = deploy at move
      cases move with
      | @upload _ raw free =>
          have landed := (Request.configMap handler.key
            (handler.loadProfileConfigMap raw)).land_keeps state.cluster
          rwa [Request.land_configMap free] at landed
      | @deploy _ job free =>
          have landed := (Request.job handler.key job).land_keeps state.cluster
          rwa [Request.land_job free] at landed
      | _ => exact .refl _
  | main _ move =>
      generalize state.main = main at move
      cases move <;> exact .refl _
  | @land _ request _ => exact request.land_keeps state.cluster
  | crash => exact .refl _

theorem handler_eq {setting : Setting} {first second : Handler} (left : first ∈ setting.groups)
    (right : second ∈ setting.groups) (same : first.key = second.key) : first = second :=
  List.inj_on_of_nodup_map setting.distinct left right same

/-- Deployments over any cluster, with any of their calls failing or carried out late,
and with any number of processes that died on the way. -/
theorem deployment_safe {setting : Setting} {before : Cluster} {trace : List Label} {state : State}
    (run : (system setting before).Run trace state) (kubelet : VolumeManager) :
    Safe setting kubelet before state := by
  have sound := sound_of_run run
  have configMaps : ∀ {key object}, state.cluster.configMaps key = some object →
      before.configMaps key = none → setting.Uploads key object := by
    intro key object found absent
    rcases sound.grown.configMaps found with old | uploads
    · rw [absent] at old
      cases old
    · exact uploads
  have jobs : ∀ {key job}, state.cluster.jobs key = some job → before.jobs key = none →
      setting.Deploys key job ∧ HasProfile state.cluster key := by
    intro key job found absent
    rcases sound.grown.jobs found with old | deploys
    · rw [absent] at old
      cases old
    · exact deploys
  refine ⟨sound.grown.kept, step_keeps, configMaps, jobs, ?_⟩
  intro key job found absent unloaded
  obtain ⟨⟨handler, configured, rfl, order, uploadURL, -, rfl⟩, cm, stored, -⟩ := jobs found absent
  obtain ⟨uploader, known, same, raw, written, rfl⟩ := configMaps stored unloaded
  cases handler_eq known configured same
  refine ⟨handler, configured, rfl, rfl, raw, written, ?_⟩
  rw [readFile_buildBatchJobObject kubelet stored]
  rfl

/-- What is looked for under a key that tells the items apart. -/
theorem find?_of_nodup_map {Item Key : Type} [DecidableEq Key] (key : Item → Key)
    {items : List Item} {item : Item} (distinct : (items.map key).Nodup) (member : item ∈ items) :
    items.find? (fun other => key other = key item) = some item := by
  have present : (items.find? fun other => key other = key item).isSome = true :=
    List.find?_isSome.mpr ⟨item, member, decide_eq_true rfl⟩
  obtain ⟨other, found⟩ := Option.isSome_iff_exists.mp present
  have same : key other = key item := by simpa using List.find?_some found
  rw [found, List.inj_on_of_nodup_map distinct (List.mem_of_find?_eq_some found) member same]

namespace Sample

def flags : ServerFlags := ⟨"runners", "kperf:v1", "v1:Pod:server:7f", "server", 2⟩

/-- A spec that is named by its URI. -/
def load (specURI : String) : Outcome RunnerGroupSpec :=
  .ok ⟨2, some ⟨1, specURI, []⟩, ∅, none, none⟩

def group (name description : String) : Handler :=
  ⟨name, "runners", ⟨2, some ⟨1, description, []⟩, ∅, some "server", some "v1:Pod:server:7f"⟩,
    some ⟨"v1", "Pod", "server", "7f", true⟩, "kperf:v1", 2⟩

def groups : List Handler := [group "server-0" "reads", group "server-1" "writes"]

theorem groups_built :
    buildRunnerGroupHandlers flags "server" load ["reads", "writes"] = .ok groups := by rfl

def setting : Setting where
  groups := groups
  distinct := buildRunnerGroupHandlers_distinct groups_built
  listeners := ["127.0.0.1:8080", "10.0.0.7:8080"]
  marshal := fun profile => .ok ((profile.map (·.description)).getD "")

/-- A file in the directory of one of the mounts of the only container. -/
def readFile (cluster : Cluster) (job : BatchJob) (mountPath file : String) : Option String := do
  let container ← job.podSpec.containers.head?
  let mount ← container.volumeMounts.find? (·.mountPath = mountPath)
  let volume ← job.podSpec.volumes.find? (·.name = mount.name)
  match volume.source with
  | .configMap name =>
      let cm ← cluster.configMaps (job.namespace_, name)
      cm.data.lookup file
  | .hostPath _ => none

def volumes : VolumeManager where
  readFile := readFile
  mounted := by
    intro cluster job container mount name cm file only paths mount_mem names volume_mem stored
    have mounts : container.volumeMounts.find? (·.mountPath = mount.mountPath) = some mount :=
      find?_of_nodup_map VolumeMount.mountPath paths mount_mem
    have volume : job.podSpec.volumes.find? (·.name = mount.name) =
        some ⟨mount.name, .configMap name⟩ :=
      find?_of_nodup_map Volume.name names volume_mem
    simp [readFile, only, mounts, volume, stored]

/-- The first config map is created after its caller gave up, the second one's request
survives the process; the next process finds the first and deploys its job. -/
def interrupted : List Label :=
  [.begin, .spawn, .spawn, .getConfigMap 0 none, .createConfigMap 0 (.failed true "timeout"),
    .getConfigMap 1 none, .crash [1], .land 0, .begin, .spawn, .getConfigMap 0 none,
    .getJob 0 .stored none, .createJob 0 .none]

end Sample

theorem deployment_safe_interrupted :
    ∃ state job, (system Sample.setting .empty).Run Sample.interrupted state ∧
      state.cluster.jobs ("runners", "server-0") = some job ∧
      Sample.volumes.readFile state.cluster job "/config" "load_profile.yaml" = some "reads" ∧
      state.pending.length = 1 ∧ Safe Sample.setting Sample.volumes .empty state := by
  obtain ⟨state, executed, deployed, waiting⟩ :
      ∃ state ∈ (system Sample.setting .empty).execute (.boot .empty []) Sample.interrupted,
        ((state.cluster.jobs ("runners", "server-0")).bind fun job =>
          Sample.volumes.readFile state.cluster job "/config" "load_profile.yaml") =
            some "reads" ∧
        state.pending.length = 1 := by decide +kernel
  obtain ⟨job, found, reads⟩ := Option.bind_eq_some_iff.mp deployed
  have run := TransitionSystem.runWith_of_executeWith rfl executed
  exact ⟨state, job, run, found, reads, waiting, deployment_safe run Sample.volumes⟩

end Kperf.Runner.Deployment
