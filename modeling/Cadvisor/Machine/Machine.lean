import Cadvisor.Go.Strings
import Cadvisor.Info
import Cadvisor.Container.Factory
import Cadvisor.Cloudinfo

/-! Machine information (`machine/machine.go`): the machine and boot ids read from
the first readable of a comma-separated list of files, the pre-allocated huge pages
listed under sysfs, and `Info`, which assembles them. The filesystem and the other
collectors are given by their answers. -/

namespace Cadvisor.Machine

open Cadvisor.Go Cadvisor.Info Cadvisor.Container

/-- Where the kernel lists the huge page sizes. -/
def hugepagesDirectory : String := "/sys/kernel/mm/hugepages/"

/-- The default of the `machine_id_file` flag. -/
def machineIdFilePath : String := "/etc/machine-id,/var/lib/dbus/machine-id"

/-- The default of the `boot_id_file` flag. -/
def bootIdFilePath : String := "/proc/sys/kernel/random/boot_id"

/-- The loop of `getInfoFromFiles`: the trimmed contents of the first readable file. -/
def firstReadable (readFile : String → Except String String) : List String → String
  | [] => ""
  | file :: rest =>
    match readFile file with
    | .ok id => trimSpace id
    | .error _ => firstReadable readFile rest

/-- `getInfoFromFiles(filePaths)` -/
def getInfoFromFiles (readFile : String → Except String String) (filePaths : String) : String :=
  if filePaths.isEmpty then "" else firstReadable readFile (split filePaths ",")

theorem firstReadable_eq (readFile : String → Except String String) (paths : List String) :
    firstReadable readFile paths =
      ((paths.findSome? fun path => (readFile path).toOption).map trimSpace).getD "" := by
  induction paths with
  | nil => rfl
  | cons path rest ih => cases read : readFile path <;> simp [firstReadable, read, ih, Except.toOption]

/-- On a comma-separated list of non-empty paths, `getInfoFromFiles` returns the trimmed
contents of the first readable file of the list, and the empty string when none is. -/
theorem getInfoFromFiles_intercalate (readFile : String → Except String String) (paths : List String)
    (named : ∀ path ∈ paths, path ≠ "" ∧ ',' ∉ path.data) :
    getInfoFromFiles readFile (String.intercalate "," paths) =
      ((paths.findSome? fun path => (readFile path).toOption).map trimSpace).getD "" := by
  cases paths with
  | nil => rfl
  | cons first rest =>
    have parts : split (String.intercalate "," (first :: rest)) "," = first :: rest :=
      split_intercalate ',' _ (List.cons_ne_nil _ _) fun path member => (named path member).2
    have notEmpty : (String.intercalate "," (first :: rest)).isEmpty = false := by
      rw [Bool.eq_false_iff, ne_eq, String.isEmpty_iff]
      intro empty
      rw [empty] at parts
      exact (named first (.head rest)).1 (List.cons_eq_cons.mp parts).1.symm
    rw [getInfoFromFiles, notEmpty, if_neg Bool.false_ne_true, parts, firstReadable_eq]

/-- The default machine-id list, with only its second file readable. -/
theorem getInfoFromFiles_default_machine_id :
    let readFile : String → Except String String := fun path =>
      if path = "/var/lib/dbus/machine-id" then .ok "c0ffee\n" else .error "no such file or directory"
    (∀ path ∈ ["/etc/machine-id", "/var/lib/dbus/machine-id"], path ≠ "" ∧ ',' ∉ path.data) ∧
      getInfoFromFiles readFile (String.intercalate "," ["/etc/machine-id", "/var/lib/dbus/machine-id"]) =
        ((["/etc/machine-id", "/var/lib/dbus/machine-id"].findSome? fun path =>
          (readFile path).toOption).map trimSpace).getD "" :=
  have named : ∀ path ∈ ["/etc/machine-id", "/var/lib/dbus/machine-id"], path ≠ "" ∧ ',' ∉ path.data := by
    decide
  ⟨named, getInfoFromFiles_intercalate _ _ named⟩

/-- The number of pages of one size, from its `nr_hugepages` file. -/
def parseNumPages (numFile val : String) : GoResult UInt64 :=
  match sscanfUint val with
  | .ok numPages => .ok numPages
  | _ => .error ("could not parse file " ++ numFile ++ " contents " ++ quote val)

/-- The body of the loop of `GetHugePagesInfo`: the record of the entry `name`. -/
def hugePageRecord (readFile : String → Except String String) (name : String) : GoResult HugePagesInfo := do
  let sizeToken ← index (split name "-") 1
  let sizeText ← index (split sizeToken "kB") 0
  let pageSize ← parseUint sizeText
  let numFile := hugepagesDirectory ++ name ++ "/nr_hugepages"
  let val ← GoResult.ofExcept (readFile numFile)
  let numPages ← parseNumPages numFile val
  pure ⟨pageSize, numPages⟩

/-- The loop of `GetHugePagesInfo` over the entries of the directory, in listing order.
A failing entry ends it with the error; the records collected before it are dropped by
the only caller. -/
def hugePagesLoop (readFile : String → Except String String) : List String → GoResult (List HugePagesInfo)
  | [] => .ok []
  | name :: rest => do
    let record ← hugePageRecord readFile name
    let records ← hugePagesLoop readFile rest
    pure (record :: records)

/-- `GetHugePagesInfo()`, given the entry names `ioutil.ReadDir` lists. An unreadable
directory means no huge pages. -/
def getHugePagesInfo (readDir : Except String (List String)) (readFile : String → Except String String) :
    GoResult (List HugePagesInfo) :=
  match readDir with
  | .error _ => .ok []
  | .ok names => hugePagesLoop readFile names

theorem hugePagesLoop_ok_iff (readFile : String → Except String String) :
    ∀ (names : List String) (records : List HugePagesInfo),
      hugePagesLoop readFile names = .ok records ↔
        List.Forall₂ (fun name record => hugePageRecord readFile name = .ok record) names records
  | [], records => by cases records <;> simp [hugePagesLoop]
  | name :: rest, [] => by simp [hugePagesLoop, GoResult.bind_eq_ok]
  | name :: rest, record :: records => by
    rw [List.forall₂_cons, ← hugePagesLoop_ok_iff readFile rest records]
    simp [hugePagesLoop, GoResult.bind_eq_ok]

theorem hugePageRecord_panics_of_no_dash (readFile : String → Except String String) (name : String)
    (absent : '-' ∉ name.data) : hugePageRecord readFile name = .panic (.indexOutOfRange 1 1) := by
  have whole : split name "-" = [name] := split_of_not_mem name '-' absent
  simp [hugePageRecord, whole, index]

/-- A listing with an entry named without a dash panics instead of returning an error. -/
theorem getHugePagesInfo_panics_on_dashless_entry (readFile : String → Except String String) :
    getHugePagesInfo (.ok ["hugepages"]) readFile = .panic (.indexOutOfRange 1 1) := by
  simp [getHugePagesInfo, hugePagesLoop,
    hugePageRecord_panics_of_no_dash readFile "hugepages" (by decide)]

/-- The name the kernel gives the directory of the huge pages of one size, in kB, under
`hugepagesDirectory`. -/
def hugepagesEntryName (pageSize : UInt64) : String := "hugepages-" ++ toString pageSize ++ "kB"

example : hugepagesEntryName 2048 = "hugepages-2048kB" := rfl

theorem split_hugepagesEntryName (pageSize : UInt64) :
    split (hugepagesEntryName pageSize) "-" = ["hugepages", toString pageSize ++ "kB"] := by
  have joined : hugepagesEntryName pageSize = "hugepages" ++ ⟨['-']⟩ ++ (toString pageSize ++ "kB") :=
    String.ext (by simp [hugepagesEntryName])
  have digits : '-' ∉ (toString pageSize ++ "kB").data := by
    simpa using not_mem_toString pageSize (c := '-') rfl
  rw [joined, split_append_sep, split_of_not_mem _ '-' (by decide), split_of_not_mem _ '-' digits]
  rfl

theorem hugePageRecord_entry (readFile : String → Except String String) (record : HugePagesInfo)
    (count : readFile (hugepagesDirectory ++ hugepagesEntryName record.pageSize ++ "/nr_hugepages") =
      .ok (toString record.numPages ++ "\n")) :
    hugePageRecord readFile (hugepagesEntryName record.pageSize) = .ok record := by
  have size : split (toString record.pageSize ++ "kB") "kB" = [toString record.pageSize, ""] :=
    split_append_sep_end _ ['k'] 'B' (by simpa using not_mem_toString record.pageSize (c := 'B') rfl)
  have counted : parseNumPages (hugepagesDirectory ++ hugepagesEntryName record.pageSize ++ "/nr_hugepages")
      (toString record.numPages ++ "\n") = .ok record.numPages := by
    rw [parseNumPages, sscanfUint_toString record.numPages "\n" (by decide)]
  simp [hugePageRecord, split_hugepagesEntryName, size, index, parseUint_toString, count, counted,
    GoResult.ofExcept]

/-- On a listing of entries named as the kernel names them, whose `nr_hugepages` files hold
their counts, `GetHugePagesInfo` returns one record per entry, in listing order, with the
size the name gives and the count the file gives. -/
theorem getHugePagesInfo_entries (readFile : String → Except String String) (records : List HugePagesInfo)
    (counts : ∀ record ∈ records,
      readFile (hugepagesDirectory ++ hugepagesEntryName record.pageSize ++ "/nr_hugepages") =
        .ok (toString record.numPages ++ "\n")) :
    getHugePagesInfo (.ok (records.map (hugepagesEntryName ·.pageSize))) readFile = .ok records := by
  rw [getHugePagesInfo, hugePagesLoop_ok_iff, List.forall₂_map_left_iff, List.forall₂_same]
  exact fun record member => hugePageRecord_entry readFile record (counts record member)

/-- A listing of the 2 MB and 1 GB sizes, with three pages of the first. -/
theorem getHugePagesInfo_two_sizes :
    let records : List HugePagesInfo := [⟨2048, 3⟩, ⟨1048576, 0⟩]
    let readFile : String → Except String String := fun path =>
      .ok (if path = "/sys/kernel/mm/hugepages/hugepages-2048kB/nr_hugepages" then "3\n" else "0\n")
    (∀ record ∈ records,
      readFile (hugepagesDirectory ++ hugepagesEntryName record.pageSize ++ "/nr_hugepages") =
        .ok (toString record.numPages ++ "\n")) ∧
      getHugePagesInfo (.ok (records.map (hugepagesEntryName ·.pageSize))) readFile = .ok records := by
  intro records readFile
  have counts : ∀ record ∈ records,
      readFile (hugepagesDirectory ++ hugepagesEntryName record.pageSize ++ "/nr_hugepages") =
        .ok (toString record.numPages ++ "\n") := by
    simp only [records, List.forall_mem_cons, List.not_mem_nil, false_implies, implies_true, and_true]
    exact ⟨rfl, rfl⟩
  exact ⟨counts, getHugePagesInfo_entries readFile records counts⟩

/-- `fs.Fs`: one filesystem the filesystem-info provider reports. -/
structure Fs where
  device : String
  major : Nat
  minor : Nat
  type : String
  capacity : UInt64
  inodes : Option UInt64
  deriving DecidableEq, Repr

/-- The conversion of one `fs.Fs` at the end of `Info`. -/
def toFsInfo (fs : Fs) : FsInfo :=
  ⟨fs.device, UInt64.ofNat fs.major, UInt64.ofNat fs.minor, fs.type, fs.capacity,
    fs.inodes.getD 0, fs.inodes.isSome⟩

/-- The collaborators of `Info`, by their answers. -/
structure MachineEnv where
  /-- `ioutil.ReadFile(path)` -/
  readFile : String → Except String String
  /-- `ioutil.ReadDir(hugepagesDirectory)`, by the entry names. -/
  readHugepagesDir : Except String (List String)
  /-- `GetClockSpeed(cpuinfo)` -/
  clockSpeed : String → Except String UInt64
  /-- `GetMachineMemoryCapacity()` -/
  memoryCapacity : Except String UInt64
  /-- `fsInfo.GetGlobalFsInfo()`: its filesystems, used even when it also fails. -/
  globalFsInfo : List Fs
  /-- The core count `GetTopology(sysFs, cpuinfo)` returns. -/
  numCores : String → Int
  /-- `sysinfo.GetSystemUUID(sysFs)` -/
  systemUUID : String
  /-- The provider, instance type and instance id of `cloudinfo.NewRealCloudInfo()`. -/
  cloud : String × String × String

/-- `Info(sysFs, fsInfo, inHostNamespace)` under the flags `machine_id_file` and
`boot_id_file`. -/
def info (env : MachineEnv) (inHostNamespace : Bool) (machineIdFile bootIdFile : String) :
    GoResult MachineInfo := do
  let rootFs := rootFs inHostNamespace
  let cpuinfo ← GoResult.ofExcept (env.readFile (join [rootFs, "/proc/cpuinfo"]))
  let clockSpeed ← GoResult.ofExcept (env.clockSpeed cpuinfo)
  let memoryCapacity ← GoResult.ofExcept env.memoryCapacity
  let hugePagesInfo ← getHugePagesInfo env.readHugepagesDir env.readFile
  pure { numCores := env.numCores cpuinfo, cpuFrequency := clockSpeed, memoryCapacity,
         hugePages := hugePagesInfo, filesystems := env.globalFsInfo.map toFsInfo,
         machineID := getInfoFromFiles env.readFile (join [rootFs, machineIdFile]),
         systemUUID := env.systemUUID,
         bootID := getInfoFromFiles env.readFile (join [rootFs, bootIdFile]),
         cloudProvider := env.cloud.1, instanceType := env.cloud.2.1, instanceID := env.cloud.2.2 }

/-- Outside the host namespace, the default machine-id list reads its second file from the
process's own root, not under `/rootfs`: the list is joined to `/rootfs` before it is split. -/
theorem info_reads_machine_id_outside_rootfs :
    let env : MachineEnv := ⟨fun path =>
        if path = "/rootfs/proc/cpuinfo" then .ok "processor : 0\n"
        else if path = "/var/lib/dbus/machine-id" then .ok "c0ffee\n"
        else .error "no such file or directory",
      .error "no hugepages", fun _ => .ok 2400000, .ok 8589934592, [], fun _ => 1, "",
      ("Unknown", "Unknown", "None")⟩
    MachineInfo.machineID <$> info env false machineIdFilePath bootIdFilePath = .ok "c0ffee" := by
  decide

/-- The cloud fields `Info` reads from `NewRealCloudInfo()`'s result: `GetCloudProvider()`,
`GetInstanceType()` and `GetInstanceID()`. -/
def cloudOf (cloudInfo : Cloudinfo.RealCloudInfo) : String × String × String :=
  (cloudInfo.cloudProvider, cloudInfo.instanceType, cloudInfo.instanceID)

theorem info_cloud {env : MachineEnv} {inHostNamespace : Bool} {machineIdFile bootIdFile : String}
    {mi : MachineInfo} (gathered : info env inHostNamespace machineIdFile bootIdFile = .ok mi)
    (cloud : String × String × String) :
    info { env with cloud } inHostNamespace machineIdFile bootIdFile =
      .ok { mi with cloudProvider := cloud.1, instanceType := cloud.2.1, instanceID := cloud.2.2 } := by
  simp only [info, GoResult.bind_eq_ok, GoResult.pure_eq] at gathered ⊢
  obtain ⟨cpuinfo, read, clockSpeed, clocked, memory, measured, pages, listed, built⟩ := gathered
  cases built
  exact ⟨cpuinfo, read, clockSpeed, clocked, memory, measured, pages, listed, rfl⟩

open Cloudinfo in
/-- For every order of visiting the providers map, a successful `Info` reports as its cloud
the name, instance type and instance id of a registered provider that reports itself
active, or the unknown values when no provider does. -/
theorem info_cloud_active {env : MachineEnv} {inHostNamespace : Bool} {machineIdFile bootIdFile : String}
    {mi : MachineInfo} (gathered : info env inHostNamespace machineIdFile bootIdFile = .ok mi)
    {providers : Providers} (iteration : Iteration providers) :
    ∃ reported, info { env with cloud := cloudOf (newRealCloudInfo iteration) } inHostNamespace
        machineIdFile bootIdFile = .ok reported ∧
      ((activeProviders providers.entries = [] ∧ reported.cloudProvider = unknownProvider ∧
          reported.instanceType = unknownInstance ∧ reported.instanceID = unNamedInstance) ∨
        ∃ entry ∈ activeProviders providers.entries, reported.cloudProvider = entry.1 ∧
          reported.instanceType = entry.2.instanceType ∧ reported.instanceID = entry.2.instanceID) := by
  refine ⟨_, info_cloud gathered _, ?_⟩
  rcases (newRealCloudInfo_results providers _).mp ⟨iteration, rfl⟩ with ⟨none, unknown⟩ | ⟨entry, active, found⟩
  · exact .inl ⟨none, by simp [cloudOf, unknown, unknownInfo]⟩
  · exact .inr ⟨entry, active, by simp [cloudOf, found, providerInfo]⟩

open Cloudinfo in
/-- A machine with one active provider among two registered ones. -/
theorem info_cloud_active_gce :
    let env : MachineEnv := ⟨fun path =>
        if path = "/proc/cpuinfo" then .ok "processor : 0\n" else .error "no such file or directory",
      .error "no hugepages", fun _ => .ok 2400000, .ok 8589934592, [], fun _ => 1, "",
      ("Unknown", "Unknown", "None")⟩
    let providers : Providers := ⟨[("GCE", ⟨true, "n1-standard-1", "4242"⟩), ("AWS", ⟨false, "", ""⟩)],
      by decide⟩
    let iteration : Iteration providers := ⟨providers.entries.reverse, List.reverse_perm _⟩
    ∃ mi, info env true "/etc/machine-id" "/proc/sys/kernel/random/boot_id" = .ok mi ∧
      ∃ reported, info { env with cloud := cloudOf (newRealCloudInfo iteration) } true "/etc/machine-id"
          "/proc/sys/kernel/random/boot_id" = .ok reported ∧
        ((activeProviders providers.entries = [] ∧ reported.cloudProvider = unknownProvider ∧
            reported.instanceType = unknownInstance ∧ reported.instanceID = unNamedInstance) ∨
          ∃ entry ∈ activeProviders providers.entries, reported.cloudProvider = entry.1 ∧
            reported.instanceType = entry.2.instanceType ∧ reported.instanceID = entry.2.instanceID) := by
  intro env providers iteration
  obtain ⟨mi, gathered⟩ : ∃ mi, info env true "/etc/machine-id" "/proc/sys/kernel/random/boot_id" = .ok mi :=
    ⟨_, rfl⟩
  exact ⟨mi, gathered, info_cloud_active gathered iteration⟩

end Cadvisor.Machine
