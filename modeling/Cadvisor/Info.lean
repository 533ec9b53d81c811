import Cadvisor.Go.Runtime

/-! The records of `info/v1` that this code builds or reads, with the fields it
touches. Fields no modelled function reads or writes are left out. -/

namespace Cadvisor.Info

open Cadvisor.Go

/-- `info.LoadStats`: the number of tasks of one cgroup in each scheduling state. -/
structure LoadStats where
  nrSleeping : UInt64
  nrRunning : UInt64
  nrStopped : UInt64
  nrUninterruptible : UInt64
  nrIoWait : UInt64
  deriving DecidableEq, Repr

/-- `info.InterfaceStats`: the counters of one network interface. -/
structure InterfaceStats where
  name : String
  rxBytes : UInt64
  txBytes : UInt64
  deriving DecidableEq, Repr

/-- `info.NetworkStats`; the code only ever replaces it by its zero value. -/
structure NetworkStats where
  interfaces : List InterfaceStats := []
  deriving DecidableEq, Repr

/-- `info.FsStats` as the docker handler fills it. -/
structure FsStats where
  device : String
  type : String
  limit : UInt64
  usage : UInt64
  baseUsage : UInt64
  inodes : UInt64
  deriving DecidableEq, Repr

/-- `info.PerDiskStats`: one block device of the disk-I/O counters. -/
structure PerDiskStats where
  device : String
  major : UInt64
  minor : UInt64
  deriving DecidableEq, Repr

/-- `info.ContainerStats`: the sub-records the handlers write. -/
structure ContainerStats where
  network : NetworkStats
  filesystem : List FsStats
  diskIo : List PerDiskStats
  deriving DecidableEq, Repr

/-- `info.FsInfo`: one filesystem of the machine. -/
structure FsInfo where
  device : String
  deviceMajor : UInt64
  deviceMinor : UInt64
  type : String
  capacity : UInt64
  inodes : UInt64
  hasInodes : Bool
  deriving DecidableEq, Repr

/-- `info.HugePagesInfo` -/
structure HugePagesInfo where
  pageSize : UInt64
  numPages : UInt64
  deriving DecidableEq, Repr

/-- `info.MachineInfo`; its disk map, network devices and topology are left out. -/
structure MachineInfo where
  numCores : Int
  cpuFrequency : UInt64
  memoryCapacity : UInt64
  hugePages : List HugePagesInfo
  filesystems : List FsInfo
  machineID : String
  systemUUID : String
  bootID : String
  cloudProvider : String
  instanceType : String
  instanceID : String
  deriving DecidableEq, Repr

/-- `info.ContainerReference` -/
structure ContainerReference where
  id : String
  name : String
  aliases : List String
  «namespace» : String
  deriving DecidableEq, Repr

/-- A `time.Time`, by its nanoseconds since the epoch. -/
abbrev Time := Int

/-- `info.ContainerSpec`: the fields a docker handler overlays on the cgroup spec. -/
structure ContainerSpec where
  labels : Option (StrMap String)
  envs : Option (StrMap String)
  image : String
  creationTime : Time
  deriving DecidableEq

end Cadvisor.Info
