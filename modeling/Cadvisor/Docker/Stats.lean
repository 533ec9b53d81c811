import Cadvisor.Docker.Handler

/-! The calls on a docker container handler (`container/docker/handler.go`):
`Start`, `Cleanup`, `GetSpec` and `GetStats` with its filesystem overlay, and the
ticks of the background sampler between them. Each call takes the answers of its
collaborators as an input. -/

namespace Cadvisor.Docker

open Cadvisor.Go Cadvisor.Info Cadvisor.Container

/-- `NetworkMode.IsContainer()` of docker's container types: the mode `container:<id>`. -/
def isContainer (networkMode : String) : Bool :=
  match splitN networkMode ":" 2 with
  | [mode, _] => mode == "container"
  | _ => false

/-- Docker's `IsContainer()` test on the network mode, through `SplitN`, is the prefix test
`container:` that the handler's IP lookup makes. -/
theorem isContainer_eq_hasPrefix (networkMode : String) :
    isContainer networkMode = hasPrefix networkMode "container:" := by
  have colon : (":" : String) = ⟨[':']⟩ := rfl
  have key := takeWhile_ne_iff_prefix ':' "container".data networkMode.data (by decide)
  rw [isContainer, colon, splitN_two]
  have prefixed : "container:".data = "container".data ++ [':'] := rfl
  rw [hasPrefix, prefixed]
  split_ifs with present
  · rw [Bool.eq_iff_iff, beq_iff_eq, List.isPrefixOf_iff_prefix, ← key, String.ext_iff]
    simp [present]
  · have missing : ¬"container".data ++ [':'] <+: networkMode.data := fun start =>
      present (start.subset (by simp))
    simpa [← Bool.not_eq_true, List.isPrefixOf_iff_prefix] using missing

namespace DockerContainerHandler

/-- `needNet()`: network stats are wanted and the container has its own network. -/
def needNet (self : DockerContainerHandler) : Bool :=
  if self.includedMetrics.has .networkUsage then !isContainer self.networkMode else false

/-- `Start()` -/
def start (self : DockerContainerHandler) : DockerContainerHandler :=
  match self.fsHandler with
  | some fsHandler => { self with fsHandler := some fsHandler.start }
  | none => self

/-- `Cleanup()` -/
def cleanup (self : DockerContainerHandler) : DockerContainerHandler :=
  match self.fsHandler with
  | some fsHandler => { self with fsHandler := some fsHandler.stop }
  | none => self

/-- A tick of the background sampler of the filesystem handler, if there is one. -/
def sampleFs (self : DockerContainerHandler) (walk : Except String FsUsage) : DockerContainerHandler :=
  match self.fsHandler with
  | some fsHandler => { self with fsHandler := some (fsHandler.sample walk) }
  | none => self

/-- `GetSpec()`, given `common.GetSpec` as a function of `needNet` and `hasFilesystem`. -/
def getSpec (self : DockerContainerHandler) (commonGetSpec : Bool → Bool → ContainerSpec × Option String) :
    ContainerSpec × Option String :=
  match commonGetSpec self.needNet (self.includedMetrics.has .diskUsage) with
  | (spec, err) =>
    ({ spec with labels := self.labels, envs := some self.envs, image := self.image,
                 creationTime := self.creationTime }, err)

/-- `ContainerReference()` -/
def containerReference (self : DockerContainerHandler) : ContainerReference × Option String :=
  (self.reference, none)

/-- `GetCgroupPath(resource)`: the path of the cgroup subsystem `resource`. -/
def getCgroupPath (self : DockerContainerHandler) (resource : String) : String × Option String :=
  match self.cgroupPaths.lookup resource with
  | some path => (path, none)
  | none => ("", some ("could not find path for resource " ++ quote resource ++ " for container " ++
      quote self.reference.name ++ "\n"))

/-- `GetContainerLabels()` -/
def getContainerLabels (self : DockerContainerHandler) : Option (StrMap String) := self.labels

/-- `GetContainerIPAddress()` -/
def getContainerIPAddress (self : DockerContainerHandler) : String := self.ipAddress

end DockerContainerHandler

/-- The answers `getFsStats` gets from its collaborators. -/
structure FsStatsOutcome where
  /-- `machineInfoFactory.GetMachineInfo()` -/
  machineInfo : Except String MachineInfo
  /-- The device of `fsInfo.GetDirFsDevice(rootfsStorageDir)`. -/
  dirFsDevice : Except String String
  /-- `common.AssignDeviceNamesToDiskStats`, on the disk-I/O counters. -/
  assignDeviceNames : MachineInfo → List PerDiskStats → List PerDiskStats

/-- The device the filesystem stats are accounted to, by storage driver. -/
inductive FsDevice where
  | found (device : String)
  | failed (err : String)
  | unsupported

/-- The switch on the storage driver in `getFsStats`. -/
def fsDevice (self : DockerContainerHandler) (outcome : FsStatsOutcome) : FsDevice :=
  if self.storageDriver = devicemapperStorageDriver then .found self.poolName
  else if self.storageDriver = aufsStorageDriver ∨ self.storageDriver = overlayStorageDriver ∨
      self.storageDriver = overlay2StorageDriver then
    match outcome.dirFsDevice with
    | .ok device => .found device
    | .error err => .failed ("unable to determine device info for dir: " ++ self.rootfsStorageDir ++
        ": " ++ err)
  else if self.storageDriver = zfsStorageDriver then .found self.zfsParent
  else .unsupported

/-- The capacity and type of the first machine filesystem on `device`, or zero and "". -/
def deviceLimit (mi : MachineInfo) (device : String) : UInt64 × String :=
  match mi.filesystems.find? (·.device == device) with
  | some fs => (fs.capacity, fs.type)
  | none => (0, "")

/-- The disk-I/O step of `getFsStats`, which writes through `stats`. -/
def nameDiskIo (outcome : FsStatsOutcome) (mi : MachineInfo) (stats : Option ContainerStats) :
    Panicking (Option ContainerStats) := do
  let s ← deref stats "stats"
  pure (some { s with diskIo := outcome.assignDeviceNames mi s.diskIo })

/-- The disk-I/O step of `getFsStats`, taken when disk-I/O metrics are on. -/
def diskIoStep (self : DockerContainerHandler) (outcome : FsStatsOutcome) (mi : MachineInfo)
    (stats : Option ContainerStats) : Panicking (Option ContainerStats) :=
  if self.includedMetrics.has .diskIo then nameDiskIo outcome mi stats else .ok stats

/-- The filesystem step of `getFsStats`: with disk-usage metrics on and a device found for
the driver, one `FsStats` from the filesystem handler's usage is appended through `stats`. -/
def fsUsageStep (self : DockerContainerHandler) (outcome : FsStatsOutcome) (mi : MachineInfo)
    (stats : Option ContainerStats) : Panicking (Option ContainerStats × Option String) :=
  if !self.includedMetrics.has .diskUsage then .ok (stats, none) else
  match fsDevice self outcome with
  | .unsupported => .ok (stats, none)
  | .failed err => .ok (stats, some err)
  | .found device => do
    let (limit, fsType) := deviceLimit mi device
    let fsHandler ← deref self.fsHandler "fsHandler"
    let usage := fsHandler.usage
    let s ← deref stats "stats"
    let fsStat : FsStats :=
      ⟨device, fsType, limit, usage.totalUsageBytes, usage.baseUsageBytes, usage.inodeUsage⟩
    pure (some { s with filesystem := s.filesystem ++ [fsStat] }, none)

/-- `getFsStats(stats)`: the stats it writes through its pointer, and its error. -/
def getFsStats (self : DockerContainerHandler) (outcome : FsStatsOutcome) (stats : Option ContainerStats) :
    Panicking (Option ContainerStats × Option String) :=
  match outcome.machineInfo with
  | .error err => .ok (stats, some err)
  | .ok mi => diskIoStep self outcome mi stats >>= fsUsageStep self outcome mi

/-- The answers `GetStats` gets: the libcontainer handler's stats and error, then those of
`getFsStats`. -/
structure StatsOutcome where
  libcontainer : Option ContainerStats × Option String
  fs : FsStatsOutcome

/-- `stats.Network = info.NetworkStats{}` -/
def clearNetwork (stats : Option ContainerStats) : Panicking (Option ContainerStats) := do
  let s ← deref stats "stats"
  pure (some { s with network := {} })

/-- The network step of `GetStats`: the record is cleared when the network is not wanted. -/
def networkStep (self : DockerContainerHandler) (stats : Option ContainerStats) :
    Panicking (Option ContainerStats) :=
  if !self.needNet then clearNetwork stats else .ok stats

/-- `GetStats()`: the stats record it returns and its error. -/
def DockerContainerHandler.getStats (self : DockerContainerHandler) (outcome : StatsOutcome) :
    Panicking (Option ContainerStats × Option String) :=
  match outcome.libcontainer with
  | (stats, some err) => .ok (stats, some err)
  | (stats, none) => networkStep self stats >>= getFsStats self outcome.fs

/-- A call on a handler, with the answers of its collaborators, or a tick of its sampler. -/
inductive HandlerOp where
  | start
  | cleanup
  | sample (walk : Except String FsUsage)
  | getSpec (commonGetSpec : Bool → Bool → ContainerSpec × Option String)
  | getStats (outcome : StatsOutcome)

namespace DockerContainerHandler

/-- One call: the handler after it, or the call's panic. -/
def step (self : DockerContainerHandler) : HandlerOp → Panicking DockerContainerHandler
  | .start => .ok self.start
  | .cleanup => .ok self.cleanup
  | .sample walk => .ok (self.sampleFs walk)
  | .getSpec _ => .ok self
  | .getStats outcome => (self.getStats outcome).map fun _ => self

/-- A sequence of calls, up to the first panic. -/
def run (self : DockerContainerHandler) : List HandlerOp → Panicking DockerContainerHandler
  | [] => .ok self
  | op :: rest => self.step op >>= fun next => next.run rest

end DockerContainerHandler

/-! ## The filesystem handler is never nil where it is used -/

/-- The panic of calling a method on a nil filesystem handler. -/
def nilFsHandler : Panic := .nilDereference "fsHandler"

/-- A handler's filesystem handler is set exactly when disk usage is among its metrics. -/
def FsHandlerInvariant (self : DockerContainerHandler) : Prop :=
  self.fsHandler.isSome = self.includedMetrics.has .diskUsage

private theorem bind_ne_error {α β : Type} {first : Panicking α} {next : α → Panicking β} {cause : Panic}
    (safeFirst : first ≠ .error cause) (safeNext : ∀ value, next value ≠ .error cause) :
    first >>= next ≠ .error cause := by
  cases first with
  | error other => simpa using safeFirst
  | ok value => exact safeNext value

private theorem deref_stats_safe {α : Type} (pointer : Option α) : deref pointer "stats" ≠ .error nilFsHandler := by
  cases pointer <;> simp [deref, nilFsHandler]

private theorem diskIoStep_safe (self : DockerContainerHandler) (outcome : FsStatsOutcome) (mi : MachineInfo)
    (stats : Option ContainerStats) : diskIoStep self outcome mi stats ≠ .error nilFsHandler := by
  unfold diskIoStep nameDiskIo
  split
  · exact bind_ne_error (deref_stats_safe stats) fun _ => by simp
  · simp

/-- The filesystem step calls `Usage()` only after the disk-usage test that guarded the
construction of the filesystem handler. -/
private theorem fsUsageStep_safe {self : DockerContainerHandler} (invariant : FsHandlerInvariant self)
    (outcome : FsStatsOutcome) (mi : MachineInfo) (stats : Option ContainerStats) :
    fsUsageStep self outcome mi stats ≠ .error nilFsHandler := by
  unfold fsUsageStep
  by_cases disk : self.includedMetrics.has .diskUsage
  · obtain ⟨fsHandler, present⟩ := Option.isSome_iff_exists.mp (invariant.trans disk)
    simp only [disk, Bool.not_true, Bool.false_eq_true, if_false]
    split
    · simp
    · simp
    · simp only [present, deref, panicking_ok_bind]
      exact bind_ne_error (deref_stats_safe stats) fun _ => by simp
  · simp [disk]

private theorem networkStep_safe (self : DockerContainerHandler) (stats : Option ContainerStats) :
    networkStep self stats ≠ .error nilFsHandler := by
  unfold networkStep clearNetwork
  split
  · exact bind_ne_error (deref_stats_safe stats) fun _ => by simp
  · simp

theorem getFsStats_safe {self : DockerContainerHandler} (invariant : FsHandlerInvariant self)
    (outcome : FsStatsOutcome) (stats : Option ContainerStats) :
    getFsStats self outcome stats ≠ .error nilFsHandler := by
  unfold getFsStats
  split
  · simp
  · exact bind_ne_error (diskIoStep_safe _ _ _ stats) (fsUsageStep_safe invariant _ _)

theorem getStats_safe {self : DockerContainerHandler} (invariant : FsHandlerInvariant self)
    (outcome : StatsOutcome) : self.getStats outcome ≠ .error nilFsHandler := by
  unfold DockerContainerHandler.getStats
  split
  · simp
  · exact bind_ne_error (networkStep_safe self _) (getFsStats_safe invariant outcome.fs)

namespace DockerContainerHandler

/-- `next` is `self` with at most the running flag and the last sample of its filesystem
handler's sampler changed: the watchers, the device id, the zfs dataset, the sampled
directories and every other field of the handler are kept. -/
def SamplerFrame (self next : DockerContainerHandler) : Prop :=
  ∃ running usage, next = { self with fsHandler := self.fsHandler.map (·.withSampler running usage) }

theorem SamplerFrame.refl (self : DockerContainerHandler) : SamplerFrame self self := by
  rcases self with ⟨_, _, _, _, _, _, _, _, _ | fsHandler⟩
  · exact ⟨false, .zero, rfl⟩
  · exact ⟨_, _, rfl⟩

theorem SamplerFrame.trans {first second third : DockerContainerHandler}
    (before : SamplerFrame first second) (after : SamplerFrame second third) : SamplerFrame first third := by
  obtain ⟨_, _, rfl⟩ := before
  obtain ⟨running, usage, rfl⟩ := after
  rcases first with ⟨_, _, _, _, _, _, _, _, _ | fsHandler⟩ <;> exact ⟨running, usage, rfl⟩

variable {self next final : DockerContainerHandler}

theorem SamplerFrame.includedMetrics (frame : SamplerFrame self next) :
    next.includedMetrics = self.includedMetrics := by
  obtain ⟨_, _, rfl⟩ := frame
  rfl

theorem SamplerFrame.fsHandler_isSome (frame : SamplerFrame self next) :
    next.fsHandler.isSome = self.fsHandler.isSome := by
  obtain ⟨_, _, rfl⟩ := frame
  cases self.fsHandler <;> rfl

theorem step_fields {op : HandlerOp} (stepped : self.step op = .ok next) : SamplerFrame self next := by
  cases op with
  | getStats outcome =>
    unfold step at stepped
    cases called : self.getStats outcome <;> simp [called, Except.map] at stepped
    exact stepped ▸ .refl self
  | getSpec => cases stepped; exact .refl self
  | start | cleanup =>
    cases stepped
    rcases self with ⟨_, _, _, _, _, _, _, _, _ | fsHandler⟩
    · exact .refl _
    · exact ⟨_, _, rfl⟩
  | sample walk =>
    cases stepped
    rcases self with ⟨_, _, _, _, _, _, _, _, _ | fsHandler⟩
    · exact .refl _
    · obtain ⟨running, usage, sampled⟩ := fsHandler.sample_eq walk
      exact ⟨running, usage, by simp only [sampleFs, sampled, Option.map_some']⟩

theorem step_safe (invariant : FsHandlerInvariant self) (op : HandlerOp) :
    self.step op ≠ .error nilFsHandler := by
  cases op with
  | getStats outcome =>
    have safe := getStats_safe invariant outcome
    unfold step
    cases called : self.getStats outcome <;> simp_all [Except.map]
  | _ => simp [step]

theorem step_invariant {op : HandlerOp} (invariant : FsHandlerInvariant self)
    (stepped : self.step op = .ok next) : FsHandlerInvariant next := by
  have frame := step_fields stepped
  unfold FsHandlerInvariant at *
  rw [frame.includedMetrics, frame.fsHandler_isSome, invariant]

theorem run_fields : ∀ {self final : DockerContainerHandler} (ops : List HandlerOp),
    self.run ops = .ok final → SamplerFrame self final
  | _, _, [], ran => by cases ran; exact .refl _
  | self, final, op :: ops, ran => by
    simp only [run] at ran
    obtain ⟨next, stepped, rest⟩ : ∃ next, self.step op = .ok next ∧ next.run ops = .ok final := by
      cases stepped : self.step op <;> simp_all
    exact (step_fields stepped).trans (run_fields ops rest)

/-- No run of calls on a handler that keeps the invariant calls a method on a nil
filesystem handler. -/
theorem run_safe (ops : List HandlerOp) (invariant : FsHandlerInvariant self) :
    self.run ops ≠ .error nilFsHandler := by
  induction ops generalizing self with
  | nil => simp [run]
  | cons op ops ih =>
    cases stepped : self.step op with
    | error cause =>
      have different : cause ≠ nilFsHandler := fun same => step_safe invariant op (same ▸ stepped)
      simpa [run, stepped] using different
    | ok next => simpa [run, stepped] using ih (step_invariant invariant stepped)

theorem run_getters {ops : List HandlerOp} (ran : self.run ops = .ok final) :
    final.containerReference = self.containerReference ∧ final.getCgroupPath = self.getCgroupPath ∧
      final.getContainerLabels = self.getContainerLabels ∧
      final.getContainerIPAddress = self.getContainerIPAddress ∧ final.needNet = self.needNet := by
  obtain ⟨_, _, rfl⟩ := run_fields ops ran
  exact ⟨rfl, rfl, rfl, rfl, rfl⟩

end DockerContainerHandler

/-- A handler built by `newDockerContainerHandler` has a filesystem handler exactly when disk
usage is among its metrics, and no sequence of `Start`, `Cleanup`, `GetSpec`, `GetStats`
and sampler ticks calls a method on a nil filesystem handler or changes anything but the
running flag and the last sample of the sampler. -/
theorem newDockerContainerHandler_fsHandler_safe {env : Collaborators} {name : String}
    {storageDriver : StorageDriver} {storageDir : String} {inHostNamespace : Bool}
    {metadataEnvs : List String} {dockerVersion : List Int} {includedMetrics : MetricSet}
    {thinPoolName : String} {thinPoolWatcher zfsWatcher : Option UsageWatcher} {h : DockerContainerHandler}
    (built : newDockerContainerHandler env name storageDriver storageDir inHostNamespace metadataEnvs
      dockerVersion includedMetrics thinPoolName thinPoolWatcher zfsWatcher = .ok h)
    (ops : List HandlerOp) :
    (h.fsHandler.isSome ↔ includedMetrics.has .diskUsage) ∧ h.includedMetrics = includedMetrics ∧
      h.run ops ≠ .error nilFsHandler ∧
      ∀ final, h.run ops = .ok final →
        final.includedMetrics = includedMetrics ∧ final.fsHandler.isSome = h.fsHandler.isSome ∧
          ∃ running usage, final = { h with fsHandler := h.fsHandler.map (·.withSampler running usage) } := by
  obtain ⟨_, -, -, -, metrics, present, -⟩ := newDockerContainerHandler_ok built
  have invariant : FsHandlerInvariant h := by rw [FsHandlerInvariant, present, metrics]
  refine ⟨by rw [present], metrics, DockerContainerHandler.run_safe ops invariant, fun final ran => ?_⟩
  have frame := DockerContainerHandler.run_fields ops ran
  exact ⟨frame.includedMetrics.trans metrics, frame.fsHandler_isSome, frame⟩

/-- An overlay2 container inspected with labels, built with disk usage on, then started,
polled and cleaned up. -/
theorem newDockerContainerHandler_fsHandler_safe_overlay2 :
    let ctnr : ContainerJSON := ⟨"/web", "2019-01-01T00:00:00.000000001Z", 0,
      ⟨some StrMap.empty, "nginx", ["PATH=/usr/bin"]⟩, "default", 42, "172.17.0.2", none⟩
    let env : Collaborators := ⟨fun name => trimPrefix name "/docker/", fun _ => [],
      fun _ => .error "no such file", .error "no status", "Parent Dataset", fun _ => .ok ctnr,
      fun _ => .ok 1546300800000000001⟩
    let poll : StatsOutcome := ⟨(some ⟨{}, [], []⟩, none),
      ⟨.error "no machine info", .ok "/dev/sda1", fun _ disks => disks⟩⟩
    ∃ h, newDockerContainerHandler env "/docker/abc123" overlay2StorageDriver "/var/lib/docker" true []
        [1, 9, 0] [.diskUsage] "" none none = .ok h ∧
      ((h.fsHandler.isSome ↔ MetricSet.has [.diskUsage] .diskUsage) ∧
        h.includedMetrics = [.diskUsage] ∧
        h.run [.start, .getStats poll, .cleanup] ≠ .error nilFsHandler ∧
        ∀ final, h.run [.start, .getStats poll, .cleanup] = .ok final →
          final.includedMetrics = [.diskUsage] ∧ final.fsHandler.isSome = h.fsHandler.isSome ∧
            ∃ running usage, final = { h with fsHandler := h.fsHandler.map (·.withSampler running usage) }) :=
  by
    intro ctnr env poll
    obtain ⟨h, built⟩ : ∃ h, newDockerContainerHandler env "/docker/abc123" overlay2StorageDriver
        "/var/lib/docker" true [] [1, 9, 0] [.diskUsage] "" none none = .ok h := ⟨_, rfl⟩
    exact ⟨h, built, newDockerContainerHandler_fsHandler_safe built _⟩

/-- On every handler that a run of calls reaches from a constructed one, `GetCgroupPath`
answers from the cgroup paths computed for the container's name at construction, and its
error names the resource and the container by that name. -/
theorem newDockerContainerHandler_getCgroupPath {env : Collaborators} {name : String}
    {storageDriver : StorageDriver} {storageDir : String} {inHostNamespace : Bool}
    {metadataEnvs : List String} {dockerVersion : List Int} {includedMetrics : MetricSet}
    {thinPoolName : String} {thinPoolWatcher zfsWatcher : Option UsageWatcher}
    {h final : DockerContainerHandler} {ops : List HandlerOp}
    (built : newDockerContainerHandler env name storageDriver storageDir inHostNamespace metadataEnvs
      dockerVersion includedMetrics thinPoolName thinPoolWatcher zfsWatcher = .ok h)
    (ran : h.run ops = .ok final) (resource : String) :
    final.getCgroupPath resource =
      match (env.makeCgroupPaths name).lookup resource with
      | some path => (path, none)
      | none => ("", some ("could not find path for resource " ++ quote resource ++
          " for container " ++ quote name ++ "\n")) := by
  obtain ⟨_, -, -, -, -, -, paths, reference⟩ := newDockerContainerHandler_ok built
  rw [(DockerContainerHandler.run_getters ran).2.1, DockerContainerHandler.getCgroupPath, paths,
    reference]

/-- On every handler that a run of calls reaches from a constructed one, `GetContainerLabels`
answers the inspected labels with `restartcount` set when the container has restarted,
`GetContainerIPAddress` the container's own address, or, when it has none and shares the
network of `container:<id>`, that container's address; `ContainerReference` names it by
docker id, name and aliases, and `needNet()` follows the inspected network mode. -/
theorem newDockerContainerHandler_getters {env : Collaborators} {name : String}
    {storageDriver : StorageDriver} {storageDir : String} {inHostNamespace : Bool}
    {metadataEnvs : List String} {dockerVersion : List Int} {includedMetrics : MetricSet}
    {thinPoolName : String} {thinPoolWatcher zfsWatcher : Option UsageWatcher}
    {h final : DockerContainerHandler} {ops : List HandlerOp}
    (built : newDockerContainerHandler env name storageDriver storageDir inHostNamespace metadataEnvs
      dockerVersion includedMetrics thinPoolName thinPoolWatcher zfsWatcher = .ok h)
    (ran : h.run ops = .ok final) :
    ∃ ctnr, inspectContainer env (env.containerNameToDockerId name) = .ok ctnr ∧
      (∀ key, mapGet? final.getContainerLabels key =
        if 0 < ctnr.restartCount ∧ key = "restartcount" then some (itoa ctnr.restartCount)
        else mapGet? ctnr.config.labels key) ∧
      (if ctnr.ipAddress = "" ∧ hasPrefix ctnr.networkMode "container:" then
        ∃ peer, env.containerInspect (trimPrefix ctnr.networkMode "container:") = .ok peer ∧
          final.getContainerIPAddress = peer.ipAddress
      else final.getContainerIPAddress = ctnr.ipAddress) ∧
      final.containerReference = (⟨env.containerNameToDockerId name, name,
        [trimPrefix ctnr.name "/", env.containerNameToDockerId name], dockerNamespace⟩, none) ∧
      final.needNet = (includedMetrics.has .networkUsage && !isContainer ctnr.networkMode) := by
  simp only [newDockerContainerHandler, GoResult.bind_eq_ok] at built
  obtain ⟨_, -, _, -, ctnr, inspected, _, -, labels, relabelled, ipAddress, addressed, built⟩ := built
  cases built
  obtain ⟨reference, -, labelled, address, need⟩ := DockerContainerHandler.run_getters ran
  refine ⟨ctnr, inspected, fun key => ?_, ?_, by rw [reference]; rfl, ?_⟩
  · rw [labelled]
    exact restartLabels_get? ctnr labels relabelled key
  · rw [address]
    exact containerIPAddress_ok addressed
  · rw [need, DockerContainerHandler.needNet]
    cases includedMetrics.has .networkUsage <;> rfl

/-! ## What `GetStats` writes into the libcontainer record -/

theorem diskIoStep_network {self : DockerContainerHandler} {outcome : FsStatsOutcome} {mi : MachineInfo}
    {stats result : Option ContainerStats} (stepped : diskIoStep self outcome mi stats = .ok result) :
    result.map (·.network) = stats.map (·.network) := by
  unfold diskIoStep nameDiskIo at stepped
  split at stepped
  · cases stats with
    | none => simp [deref] at stepped
    | some s =>
      simp only [deref, panicking_ok_bind, panicking_pure, Except.ok.injEq] at stepped
      rw [← stepped]; rfl
  · cases stepped; rfl

theorem fsUsageStep_network {self : DockerContainerHandler} {outcome : FsStatsOutcome} {mi : MachineInfo}
    {stats result : Option ContainerStats} {err : Option String}
    (stepped : fsUsageStep self outcome mi stats = .ok (result, err)) :
    result.map (·.network) = stats.map (·.network) := by
  unfold fsUsageStep at stepped
  split at stepped
  · cases stepped; rfl
  split at stepped
  · cases stepped; rfl
  · cases stepped; rfl
  · cases present : self.fsHandler <;> cases stats <;> simp [present, deref] at stepped
    rw [← stepped.1]; rfl

theorem getFsStats_network {self : DockerContainerHandler} {outcome : FsStatsOutcome}
    {stats result : Option ContainerStats} {err : Option String}
    (collected : getFsStats self outcome stats = .ok (result, err)) :
    result.map (·.network) = stats.map (·.network) := by
  unfold getFsStats at collected
  cases machine : outcome.machineInfo with
  | error err =>
    simp only [machine, Except.ok.injEq, Prod.mk.injEq] at collected
    rw [← collected.1]
  | ok mi =>
    simp only [machine] at collected
    cases named : diskIoStep self outcome mi stats with
    | error cause => simp [named] at collected
    | ok namedStats =>
      simp only [named, panicking_ok_bind] at collected
      exact (fsUsageStep_network collected).trans (diskIoStep_network named)

theorem getStats_network_zero {self : DockerContainerHandler} {outcome : StatsOutcome}
    {stats : ContainerStats} {err : Option String} (noNet : self.needNet = false)
    (collected : outcome.libcontainer.2 = none) (returned : self.getStats outcome = .ok (some stats, err)) :
    stats.network = {} := by
  rcases outcome with ⟨⟨partialStats, libErr⟩, fs⟩
  simp only at collected
  subst collected
  unfold DockerContainerHandler.getStats networkStep clearNetwork at returned
  cases partialStats with
  | none => simp [noNet, deref] at returned
  | some partialStats =>
    simp only [noNet, Bool.not_false, if_true, deref, panicking_ok_bind, panicking_pure] at returned
    simpa using getFsStats_network returned

/-- On an error of the libcontainer handler, `GetStats` returns the partial record as it
came, network counters included, whatever `needNet()` says; when the libcontainer handler
returns no error and the network is not wanted, every record `GetStats` returns has the
zero network record, whether `getFsStats` fails or not. -/
theorem getStats_keeps_network_on_error (self : DockerContainerHandler) (fs : FsStatsOutcome) :
    let peer : ContainerStats := ⟨⟨[⟨"eth0", 1500, 900⟩]⟩, [], []⟩
    (self.getStats ⟨(some peer, some "failed to get cgroup stats"), fs⟩ =
        .ok (some peer, some "failed to get cgroup stats") ∧ peer.network ≠ {}) ∧
      ∀ (outcome : StatsOutcome) (stats : ContainerStats) (err : Option String),
        self.needNet = false → outcome.libcontainer.2 = none →
        self.getStats outcome = .ok (some stats, err) → stats.network = {} :=
  ⟨⟨rfl, by decide⟩, fun _ _ _ => getStats_network_zero⟩

end Cadvisor.Docker
