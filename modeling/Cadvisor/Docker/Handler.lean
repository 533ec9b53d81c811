import Cadvisor.Go.Strings
import Cadvisor.Info
import Cadvisor.Container.Factory
import Cadvisor.Docker.FsHandler

/-! Construction of a docker container handler (`newDockerContainerHandler` of
`container/docker/handler.go`): the read-write layer of the container's root
filesystem, the docker inspection, the labels, the IP address, the optional
filesystem usage corrector and the metadata environment map. The collaborators
are given by their answers. -/

namespace Cadvisor.Docker

open Cadvisor.Go Cadvisor.Info Cadvisor.Container

/-- `storageDriver`, the name of docker's graph driver. -/
abbrev StorageDriver := String

/-- Modelled from the spec: the driver constants of `container/docker/factory.go` (not
under src), each the name docker reports for the driver. -/
def aufsStorageDriver : StorageDriver := "aufs"

/-- Modelled from the spec, as `aufsStorageDriver`. -/
def overlayStorageDriver : StorageDriver := "overlay"

/-- Modelled from the spec, as `aufsStorageDriver`. -/
def overlay2StorageDriver : StorageDriver := "overlay2"

/-- Modelled from the spec, as `aufsStorageDriver`. -/
def zfsStorageDriver : StorageDriver := "zfs"

/-- Modelled from the spec, as `aufsStorageDriver`. -/
def devicemapperStorageDriver : StorageDriver := "devicemapper"

/-- Modelled from the spec: `DockerNamespace` of the docker package (not under src), the
namespace of every docker container reference. -/
def dockerNamespace : String := "docker"

/-- The read-write layer subdirectory of aufs. -/
def aufsRWLayer : String := "diff"

/-- The read-write layer subdirectory of overlay. -/
def overlayRWLayer : String := "upper"

/-- The read-write layer subdirectory of overlay2. -/
def overlay2RWLayer : String := "diff"

/-- Where docker keeps the log files of the json logging driver. -/
def pathToContainersDir : String := "containers"

/-- Docker versions from 1.10.0 on name the root filesystem of a container randomly. -/
def randomizedRWLayerMinorVersion : Int := 10

/-- The file holding that random name. -/
def rwLayerIDFile : String := "mount-id"

/-- The fields of docker's `container.Config` the handler reads. -/
structure Config where
  labels : Option (StrMap String)
  image : String
  env : List String
  deriving DecidableEq

/-- The parts of docker's `types.ContainerJSON` the handler reads. `Config`, `HostConfig`,
`State` and `NetworkSettings` are pointers docker fills in every inspection. -/
structure ContainerJSON where
  name : String
  created : String
  restartCount : Int
  config : Config
  networkMode : String
  pid : Int
  ipAddress : String
  graphDriverData : Option (StrMap String)
  deriving DecidableEq

/-- The collaborators of the construction, by their answers. -/
structure Collaborators where
  /-- `ContainerNameToDockerId(name)` of the docker package (not under src). -/
  containerNameToDockerId : String → String
  /-- `common.MakeCgroupPaths(mountPoints, name)`: subsystem and cgroup path. -/
  makeCgroupPaths : String → List (String × String)
  /-- `ioutil.ReadFile(path)` -/
  readFile : String → Except String String
  /-- The `DriverStatus` map of docker's `Status()`. -/
  status : Except String (Option (StrMap String))
  /-- `dockerutil.DriverStatusParentDataset`, the key of the zfs parent dataset. -/
  driverStatusParentDataset : String
  /-- `client.ContainerInspect(ctx, id)` -/
  containerInspect : String → Except String ContainerJSON
  /-- `time.Parse(time.RFC3339Nano, value)` -/
  parseRFC3339Nano : String → Except String Time

/-- The libcontainer handler `containerlibcontainer.NewHandler` builds, by its inputs. -/
structure LibcontainerHandler where
  cgroupPaths : List (String × String)
  rootFs : String
  pid : Int
  includedMetrics : MetricSet
  deriving DecidableEq

/-- `dockerContainerHandler`; the machine-info and filesystem-info providers it keeps
answer at each call, so they are inputs of the calls. -/
structure DockerContainerHandler where
  cgroupPaths : List (String × String)
  storageDriver : StorageDriver
  rootfsStorageDir : String
  creationTime : Time
  envs : StrMap String
  labels : Option (StrMap String)
  image : String
  networkMode : String
  fsHandler : Option DockerFsHandler
  ipAddress : String
  includedMetrics : MetricSet
  poolName : String
  zfsParent : String
  reference : ContainerReference
  libcontainerHandler : LibcontainerHandler

/-- `(dockerVersion[0] <= 1) && (dockerVersion[1] < randomizedRWLayerMinorVersion)`; the
minor version is read only when the major one is at most one. -/
def beforeRandomizedRWLayer (dockerVersion : List Int) : GoResult Bool := do
  let major ← index dockerVersion 0
  if major ≤ 1 then
    let minor ← index dockerVersion 1
    pure (decide (minor < randomizedRWLayerMinorVersion))
  else pure false

/-- `getRwLayerID(containerID, storageDir, sd, dockerVersion)` -/
def getRwLayerID (readFile : String → Except String String) (containerID storageDir : String)
    (sd : StorageDriver) (dockerVersion : List Int) : GoResult String := do
  if ← beforeRandomizedRWLayer dockerVersion then pure containerID
  else
    match readFile (join [storageDir, "image", sd, "layerdb", "mounts", containerID, rwLayerIDFile]) with
    | .ok bytes => pure bytes
    | .error err => throw ("failed to identify the read-write layer ID for container " ++
        quote containerID ++ ". - " ++ err)

theorem beforeRandomizedRWLayer_eq (major minor : Int) (rest : List Int) :
    beforeRandomizedRWLayer (major :: minor :: rest) = .ok (decide (major ≤ 1 ∧ minor < 10)) := by
  by_cases old : major ≤ 1 <;> simp [beforeRandomizedRWLayer, index, old, randomizedRWLayerMinorVersion]

theorem getRwLayerID_eq (readFile : String → Except String String) (containerID storageDir : String)
    (sd : StorageDriver) (major minor : Int) (rest : List Int) :
    getRwLayerID readFile containerID storageDir sd (major :: minor :: rest) =
      if major ≤ 1 ∧ minor < 10 then .ok containerID else
        match readFile (join [storageDir, "image", sd, "layerdb", "mounts", containerID, rwLayerIDFile]) with
        | .ok bytes => .ok bytes
        | .error err => .error ("failed to identify the read-write layer ID for container " ++
            quote containerID ++ ". - " ++ err) := by
  by_cases old : major ≤ 1 ∧ minor < 10 <;>
    simp only [getRwLayerID, beforeRandomizedRWLayer_eq, old, GoResult.ok_bind, decide_True,
      decide_False, if_true, if_false, Bool.false_eq_true] <;> rfl

theorem beforeRandomizedRWLayer_eq_lex_iff (major minor : Int) (rest : List Int) :
    beforeRandomizedRWLayer (major :: minor :: rest) =
        .ok (decide (major < 1 ∨ (major = 1 ∧ minor < 10))) ↔ (1 ≤ major ∨ minor < 10) := by
  rw [beforeRandomizedRWLayer_eq, GoResult.ok.injEq, decide_eq_decide]
  omega

/-- Docker 0.10 is older than 1.10, yet the layer id is read from the `mount-id` file: on
every version with a major and a minor component the layer is the container id exactly
when the major version is at most one and the minor one below ten, and this test agrees
with the version order `(major, minor) < (1, 10)` exactly on the versions from 1.0 on and
on the earlier ones whose minor version is below ten. -/
theorem getRwLayerID_reads_mount_id_at_0_10 :
    getRwLayerID (fun _ => .ok "f00d") "abc123" "/var/lib/docker" overlay2StorageDriver [0, 10, 0] =
        .ok "f00d" ∧
      (∀ (readFile : String → Except String String) (containerID storageDir : String)
        (sd : StorageDriver) (major minor : Int) (rest : List Int),
        getRwLayerID readFile containerID storageDir sd (major :: minor :: rest) =
          if major ≤ 1 ∧ minor < 10 then .ok containerID else
            match readFile (join [storageDir, "image", sd, "layerdb", "mounts", containerID,
                rwLayerIDFile]) with
            | .ok bytes => .ok bytes
            | .error err => .error ("failed to identify the read-write layer ID for container " ++
                quote containerID ++ ". - " ++ err)) ∧
      ∀ (major minor : Int) (rest : List Int),
        beforeRandomizedRWLayer (major :: minor :: rest) =
            .ok (decide (major < 1 ∨ (major = 1 ∧ minor < 10))) ↔ (1 ≤ major ∨ minor < 10) :=
  ⟨by decide, getRwLayerID_eq, beforeRandomizedRWLayer_eq_lex_iff⟩

/-- The switch on the storage driver: the writable-layer directory `rootfsStorageDir`,
and for zfs the dataset `zfsFilesystem` and its parent `zfsParent`. -/
def layerLocation (env : Collaborators) (storageDir : String) (storageDriver : StorageDriver)
    (rwLayerID : String) : GoResult (String × String × String) :=
  if storageDriver = aufsStorageDriver then
    .ok (join [storageDir, aufsStorageDriver, aufsRWLayer, rwLayerID], "", "")
  else if storageDriver = overlayStorageDriver then
    .ok (join [storageDir, storageDriver, rwLayerID, overlayRWLayer], "", "")
  else if storageDriver = overlay2StorageDriver then
    .ok (join [storageDir, storageDriver, rwLayerID, overlay2RWLayer], "", "")
  else if storageDriver = zfsStorageDriver then
    match env.status with
    | .error err => .error ("unable to determine docker status: " ++ err)
    | .ok driverStatus =>
      let zfsParent := mapIndex driverStatus env.driverStatusParentDataset
      .ok ("", join [zfsParent, rwLayerID], zfsParent)
  else .ok ("", "", "")

/-- The IP address: the container's own, or, when it has none and shares the network of
`container:<id>`, the address docker reports for that container. -/
def containerIPAddress (env : Collaborators) (id : String) (ctnr : ContainerJSON) : GoResult String :=
  if ctnr.ipAddress = "" ∧ hasPrefix ctnr.networkMode "container:" then
    match env.containerInspect (trimPrefix ctnr.networkMode "container:") with
    | .error err => .error ("failed to inspect container " ++ quote id ++ ": " ++ err)
    | .ok other => .ok other.ipAddress
  else .ok ctnr.ipAddress

/-- One step of the inner loop over the container's environment: an entry `name=value`
whose name is `exposedEnv` sets the lower-cased name to the value. `lower` is
`strings.ToLower`, which the constructor passes as `toLower`. -/
def exposeEnv (lower : String → String) (exposedEnv : String) (envs : StrMap String)
    (envVar : String) : StrMap String :=
  if envVar ≠ "" then
    match splitN envVar "=" 2 with
    | [name, value] => if name = exposedEnv then envs.insert (lower exposedEnv) value else envs
    | _ => envs
  else envs

/-- The loops that split env vars to get the metadata map: the allow-list outside,
the container's environment inside. -/
def metadataEnvMap (lower : String → String) (metadataEnvs env : List String) : StrMap String :=
  metadataEnvs.foldl (fun envs exposedEnv => env.foldl (exposeEnv lower exposedEnv) envs) StrMap.empty

/-- The name an environment entry sets: the text before its first `=`. -/
def envName (envVar : String) : String := ⟨envVar.data.takeWhile (· != '=')⟩

/-- The value an environment entry sets: the text after its first `=`. -/
def envValue (envVar : String) : String := ⟨(envVar.data.dropWhile (· != '=')).tail⟩

/-- Whether an environment entry has an `=` and sets `name`. -/
def setsEnv (name envVar : String) : Bool := decide ('=' ∈ envVar.data) && envName envVar == name

/-- The value the last entry of `env` that sets `name` gives it. -/
def lastValue (env : List String) (name : String) : Option String :=
  (env.filterMap fun envVar => if setsEnv name envVar then some (envValue envVar) else none).getLast?

theorem exposeEnv_get? (lower : String → String) (exposedEnv : String) (envs : StrMap String)
    (envVar key : String) :
    (exposeEnv lower exposedEnv envs envVar).get? key =
      (if lower exposedEnv = key ∧ setsEnv exposedEnv envVar = true then some (envValue envVar)
        else none).or (envs.get? key) := by
  have parts : splitN envVar "=" 2 =
      if '=' ∈ envVar.data then [envName envVar, envValue envVar] else [envVar] :=
    splitN_two envVar '='
  unfold exposeEnv
  rw [parts]
  by_cases present : '=' ∈ envVar.data
  · have nonempty : envVar ≠ "" := by rintro rfl; simp at present
    by_cases named : envName envVar = exposedEnv
    · by_cases lowered : lower exposedEnv = key
      · simp [present, nonempty, named, lowered, setsEnv]
      · simp [present, nonempty, named, lowered, setsEnv, StrMap.get?_insert, Ne.symm lowered]
    · simp [present, nonempty, named, setsEnv]
  · by_cases blank : envVar = ""
    · simp [blank, setsEnv]
    · simp [present, blank, setsEnv]

/-- For every lowering function, the metadata map sets `key` to the value that the last
allow-listed name lowering to `key` gets from the last environment entry setting it: the
allow-list's order decides between names that differ only in case. -/
theorem metadataEnvMap_get? (lower : String → String) (metadataEnvs env : List String) (key : String) :
    (metadataEnvMap lower metadataEnvs env).get? key =
      (metadataEnvs.filterMap fun exposedEnv =>
        if lower exposedEnv = key then lastValue env exposedEnv else none).getLast? := by
  unfold metadataEnvMap
  rw [StrMap.foldl_get? _ _ key ?_, StrMap.get?_empty, Option.or_none]
  intro envs exposedEnv
  rw [StrMap.foldl_get? _ _ key (fun envs envVar => exposeEnv_get? lower exposedEnv envs envVar key)]
  by_cases lowered : lower exposedEnv = key
  · simp [lowered, lastValue]
  · have unset : List.findSome? (fun _ => (none : Option String)) env.reverse = none := by simp
    simp [lowered, unset]

/-- With two allow-listed names that differ only in case, the later one in the allow-list
wins, not the later entry of the environment. -/
theorem metadataEnvMap_case_variants :
    (metadataEnvMap toLower ["FOO", "foo"] ["foo=1", "FOO=2"]).get? "foo" = some "1" := by decide

/-- `client.ContainerInspect(context.Background(), id)`, which fails the construction. -/
def inspectContainer (env : Collaborators) (id : String) : GoResult ContainerJSON :=
  match env.containerInspect id with
  | .ok ctnr => .ok ctnr
  | .error err => .error ("failed to inspect container " ++ quote id ++ ": " ++ err)

/-- `time.Parse(time.RFC3339Nano, ctnr.Created)`, which fails the construction. -/
def parseCreationTime (env : Collaborators) (id : String) (ctnr : ContainerJSON) : GoResult Time :=
  match env.parseRFC3339Nano ctnr.created with
  | .ok time => .ok time
  | .error err => .error ("failed to parse the create timestamp " ++ quote ctnr.created ++
      " for container " ++ quote id ++ ": " ++ err)

/-- The container's labels, with `restartcount` set when it has restarted; the assignment
writes into the inspected map itself. -/
def restartLabels (ctnr : ContainerJSON) : GoResult (Option (StrMap String)) :=
  if ctnr.restartCount > 0 then
    (mapAssign ctnr.config.labels "restartcount" (itoa ctnr.restartCount)).bind (.ok ∘ some)
  else .ok ctnr.config.labels

theorem restartLabels_get? (ctnr : ContainerJSON) (labels : Option (StrMap String))
    (set : restartLabels ctnr = .ok labels) (key : String) :
    mapGet? labels key = if 0 < ctnr.restartCount ∧ key = "restartcount" then
      some (itoa ctnr.restartCount) else mapGet? ctnr.config.labels key := by
  unfold restartLabels at set
  split_ifs at set with restarted
  · rcases present : ctnr.config.labels with _ | inspected
    · simp [present, mapAssign, GoResult.bind] at set
    · simp only [present, mapAssign, GoResult.bind, Function.comp, GoResult.ok.injEq] at set
      subst set
      simp [mapGet?, StrMap.get?_insert, restarted]
  · cases set
    simp [restarted]

/-- `newDockerContainerHandler(...)`; `client`, `fsInfo`, `machineInfoFactory` and
`cgroupSubsystems` are the collaborators `env`. -/
def newDockerContainerHandler (env : Collaborators) (name : String) (storageDriver : StorageDriver)
    (storageDir : String) (inHostNamespace : Bool) (metadataEnvs : List String)
    (dockerVersion : List Int) (includedMetrics : MetricSet) (thinPoolName : String)
    (thinPoolWatcher zfsWatcher : Option UsageWatcher) : GoResult DockerContainerHandler := do
  let cgroupPaths := env.makeCgroupPaths name
  let storageDir := if inHostNamespace then storageDir else join [rootFs inHostNamespace, storageDir]
  let id := env.containerNameToDockerId name
  let otherStorageDir := join [storageDir, pathToContainersDir, id]
  let rwLayerID ← getRwLayerID env.readFile id storageDir storageDriver dockerVersion
  let location ← layerLocation env storageDir storageDriver rwLayerID
  let ctnr ← inspectContainer env id
  let creationTime ← parseCreationTime env id ctnr
  let labels ← restartLabels ctnr
  let ipAddress ← containerIPAddress env id ctnr
  let fsHandler := if includedMetrics.has .diskUsage then
      some ⟨FsSampler.new location.1 otherStorageDir, thinPoolWatcher,
        mapIndex ctnr.graphDriverData "DeviceId", zfsWatcher, location.2.1⟩
    else none
  pure { cgroupPaths, storageDriver, rootfsStorageDir := location.1, creationTime,
         envs := metadataEnvMap toLower metadataEnvs ctnr.config.env, labels, image := ctnr.config.image,
         networkMode := ctnr.networkMode, fsHandler, ipAddress, includedMetrics,
         poolName := thinPoolName, zfsParent := location.2.2,
         reference := ⟨id, name, [trimPrefix ctnr.name "/", id], dockerNamespace⟩,
         libcontainerHandler := ⟨cgroupPaths, rootFs inHostNamespace, ctnr.pid, includedMetrics⟩ }

/-- What a successful construction returns: the inspected container `ctnr` gives its
labels and metadata environment, and the handler keeps the metric set, with a filesystem
handler exactly when disk usage is among the metrics, the cgroup paths of the name, and a
reference by docker id, name and aliases in the docker namespace. -/
theorem newDockerContainerHandler_ok {env : Collaborators} {name : String} {storageDriver : StorageDriver}
    {storageDir : String} {inHostNamespace : Bool} {metadataEnvs : List String}
    {dockerVersion : List Int} {includedMetrics : MetricSet} {thinPoolName : String}
    {thinPoolWatcher zfsWatcher : Option UsageWatcher} {h : DockerContainerHandler}
    (built : newDockerContainerHandler env name storageDriver storageDir inHostNamespace metadataEnvs
      dockerVersion includedMetrics thinPoolName thinPoolWatcher zfsWatcher = .ok h) :
    ∃ ctnr, inspectContainer env (env.containerNameToDockerId name) = .ok ctnr ∧
      restartLabels ctnr = .ok h.labels ∧ h.envs = metadataEnvMap toLower metadataEnvs ctnr.config.env ∧
      h.includedMetrics = includedMetrics ∧ h.fsHandler.isSome = includedMetrics.has .diskUsage ∧
      h.cgroupPaths = env.makeCgroupPaths name ∧
      h.reference = ⟨env.containerNameToDockerId name, name,
        [trimPrefix ctnr.name "/", env.containerNameToDockerId name], dockerNamespace⟩ := by
  simp only [newDockerContainerHandler, GoResult.bind_eq_ok] at built
  obtain ⟨_, -, _, -, ctnr, inspected, _, -, labels, relabelled, _, -, built⟩ := built
  cases built
  refine ⟨ctnr, inspected, relabelled, rfl, rfl, ?_, rfl, rfl⟩
  split <;> simp_all [MetricSet.has]

/-- A restarted container whose inspection carries no labels map makes the construction panic. -/
theorem newDockerContainerHandler_panics_on_nil_labels :
    let ctnr : ContainerJSON := ⟨"/web", "2019-01-01T00:00:00.000000001Z", 1,
      ⟨none, "nginx", ["PATH=/usr/bin"]⟩, "default", 42, "172.17.0.2", none⟩
    let env : Collaborators := ⟨fun name => trimPrefix name "/docker/", fun _ => [],
      fun _ => .error "no such file", .error "no status", "Parent Dataset", fun _ => .ok ctnr,
      fun _ => .ok 1546300800000000001⟩
    newDockerContainerHandler env "/docker/abc123" overlay2StorageDriver "/var/lib/docker" true []
      [1, 9, 0] [] "" none none = .panic .nilMapWrite := rfl

theorem beforeRandomizedRWLayer_panic {dockerVersion : List Int} {cause : Panic}
    (panicked : beforeRandomizedRWLayer dockerVersion = .panic cause) :
    (dockerVersion = [] ∧ cause = .indexOutOfRange 0 0) ∨
      ((∃ major ≤ 1, dockerVersion = [major]) ∧ cause = .indexOutOfRange 1 1) := by
  match dockerVersion with
  | [] => simp [beforeRandomizedRWLayer, index] at panicked; exact .inl ⟨rfl, panicked.symm⟩
  | [major] =>
    by_cases old : major ≤ 1 <;> simp [beforeRandomizedRWLayer, index, old] at panicked
    exact .inr ⟨⟨major, old, rfl⟩, panicked.symm⟩
  | major :: minor :: rest => simp [beforeRandomizedRWLayer_eq] at panicked

theorem getRwLayerID_panic {readFile : String → Except String String} {containerID storageDir : String}
    {sd : StorageDriver} {dockerVersion : List Int} {cause : Panic}
    (panicked : getRwLayerID readFile containerID storageDir sd dockerVersion = .panic cause) :
    beforeRandomizedRWLayer dockerVersion = .panic cause := by
  unfold getRwLayerID at panicked
  rcases before : beforeRandomizedRWLayer dockerVersion with old | err | c
  · simp only [before, GoResult.ok_bind] at panicked
    split at panicked
    · simp at panicked
    · split at panicked <;> simp at panicked
  · simp [before] at panicked
  · simpa [before] using panicked

/-! ### The steps of the construction that cannot panic, and the one that can -/

theorem layerLocation_ne_panic (env : Collaborators) (storageDir : String) (storageDriver : StorageDriver)
    (rwLayerID : String) (cause : Panic) : layerLocation env storageDir storageDriver rwLayerID ≠ .panic cause := by
  unfold layerLocation
  split_ifs <;> try simp
  cases env.status <;> simp

theorem inspectContainer_ne_panic (env : Collaborators) (id : String) (cause : Panic) :
    inspectContainer env id ≠ .panic cause := by
  unfold inspectContainer; split <;> simp

theorem parseCreationTime_ne_panic (env : Collaborators) (id : String) (ctnr : ContainerJSON) (cause : Panic) :
    parseCreationTime env id ctnr ≠ .panic cause := by
  unfold parseCreationTime; split <;> simp

theorem containerIPAddress_ne_panic (env : Collaborators) (id : String) (ctnr : ContainerJSON) (cause : Panic) :
    containerIPAddress env id ctnr ≠ .panic cause := by
  unfold containerIPAddress
  split_ifs <;> (try split) <;> simp

theorem restartLabels_panic {ctnr : ContainerJSON} {cause : Panic} (panicked : restartLabels ctnr = .panic cause) :
    cause = .nilMapWrite ∧ 0 < ctnr.restartCount ∧ ctnr.config.labels = none := by
  unfold restartLabels at panicked
  split_ifs at panicked with restarted
  · rcases present : ctnr.config.labels with _ | inspected <;>
      simp [present, mapAssign, GoResult.bind] at panicked
    exact ⟨panicked.symm, restarted, rfl⟩

/-- The construction panics only on a docker version list too short for the index it reads,
or on a restarted container whose inspection has no labels map; a version list too short
always makes it panic. -/
theorem newDockerContainerHandler_panics (env : Collaborators) (name : String) (storageDriver : StorageDriver)
    (storageDir : String) (inHostNamespace : Bool) (metadataEnvs : List String)
    (dockerVersion : List Int) (includedMetrics : MetricSet) (thinPoolName : String)
    (thinPoolWatcher zfsWatcher : Option UsageWatcher) :
    (∀ cause, newDockerContainerHandler env name storageDriver storageDir inHostNamespace metadataEnvs
        dockerVersion includedMetrics thinPoolName thinPoolWatcher zfsWatcher = .panic cause →
      (dockerVersion = [] ∧ cause = .indexOutOfRange 0 0) ∨
      ((∃ major ≤ 1, dockerVersion = [major]) ∧ cause = .indexOutOfRange 1 1) ∨
      (cause = .nilMapWrite ∧ ∃ ctnr, inspectContainer env (env.containerNameToDockerId name) = .ok ctnr ∧
        0 < ctnr.restartCount ∧ ctnr.config.labels = none)) ∧
    ((dockerVersion = [] ∨ ∃ major ≤ 1, dockerVersion = [major]) →
      ∃ cause, newDockerContainerHandler env name storageDriver storageDir inHostNamespace metadataEnvs
        dockerVersion includedMetrics thinPoolName thinPoolWatcher zfsWatcher = .panic cause) := by
  constructor
  · intro cause panicked
    simp only [newDockerContainerHandler, GoResult.bind_eq_panic] at panicked
    rcases panicked with read | ⟨_, -, located | ⟨_, -, inspect | ⟨ctnr, inspected, parsed |
      ⟨_, -, labelled | ⟨_, -, addressed | ⟨_, -, built⟩⟩⟩⟩⟩⟩
    · exact (beforeRandomizedRWLayer_panic (getRwLayerID_panic read)).imp id .inl
    · exact (layerLocation_ne_panic _ _ _ _ _ located).elim
    · exact (inspectContainer_ne_panic _ _ _ inspect).elim
    · exact (parseCreationTime_ne_panic _ _ _ _ parsed).elim
    · obtain ⟨nil, restarted, none⟩ := restartLabels_panic labelled
      exact .inr (.inr ⟨nil, ctnr, inspected, restarted, none⟩)
    · exact (containerIPAddress_ne_panic _ _ _ _ addressed).elim
    · simp at built
  · intro short
    obtain ⟨cause, panicked⟩ : ∃ cause, beforeRandomizedRWLayer dockerVersion = .panic cause := by
      rcases short with rfl | ⟨major, old, rfl⟩
      · exact ⟨_, rfl⟩
      · exact ⟨.indexOutOfRange 1 1, by simp [beforeRandomizedRWLayer, index, old]⟩
    exact ⟨cause, by simp only [newDockerContainerHandler, getRwLayerID, panicked, GoResult.panic_bind]⟩

theorem containerIPAddress_ok {env : Collaborators} {id : String} {ctnr : ContainerJSON} {ipAddress : String}
    (addressed : containerIPAddress env id ctnr = .ok ipAddress) :
    if ctnr.ipAddress = "" ∧ hasPrefix ctnr.networkMode "container:" then
      ∃ peer, env.containerInspect (trimPrefix ctnr.networkMode "container:") = .ok peer ∧
        ipAddress = peer.ipAddress
    else ipAddress = ctnr.ipAddress := by
  unfold containerIPAddress at addressed
  split_ifs at addressed ⊢
  · cases inspected : env.containerInspect (trimPrefix ctnr.networkMode "container:") <;>
      simp [inspected] at addressed
    exact ⟨_, rfl, addressed.symm⟩
  · exact (GoResult.ok.inj addressed).symm

end Cadvisor.Docker
