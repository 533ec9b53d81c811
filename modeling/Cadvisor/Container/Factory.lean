import Cadvisor.Go.Runtime

/-! The parts of the `container` package that this code shares: the metric kinds a
handler is configured with, the root of the host's filesystem as the process sees it,
the factory registry, and what the runtimes' `Register` functions have in common: the
check of the cgroup mount table, and a factory registered only once every check has
passed. The registry itself is not part of the modelled source; it is modelled from
the spec. -/

namespace Cadvisor.Container

open Cadvisor.Go

/-- `container.MetricKind`, with the kinds this code tests by name. -/
inductive MetricKind where
  | diskUsage
  | diskIo
  | networkUsage
  | other (name : String)
  deriving DecidableEq, Repr

/-- `container.MetricSet` -/
abbrev MetricSet := List MetricKind

/-- `MetricSet.Has(kind)` -/
def MetricSet.has (set : MetricSet) (kind : MetricKind) : Bool := decide (kind ∈ set)

@[simp] theorem MetricSet.has_iff (set : MetricSet) (kind : MetricKind) :
    set.has kind = true ↔ kind ∈ set := by simp [MetricSet.has]

/-- The `rootFs` every factory and `machine.Info` compute from `inHostNamespace`. -/
def rootFs (inHostNamespace : Bool) : String := if inHostNamespace then "/" else "/rootfs"

/-- `watcher.ContainerWatchSource`, with the sources whose factories are modelled. -/
inductive ContainerWatchSource where
  | raw
  | rkt
  deriving DecidableEq, Repr

/-- A `container.ContainerHandlerFactory` value, by the methods its callers use here:
`String()` and `CanHandleAndAccept(name)`. -/
structure ContainerHandlerFactory where
  string : String
  canHandleAndAccept : String → GoResult (Bool × Bool × Option String)

/-- Modelled from the spec: the process-wide registry, each factory with the discovery
source it was registered for, in registration order. -/
structure Registry where
  entries : List (ContainerWatchSource × ContainerHandlerFactory)

/-- Modelled from the spec: `RegisterContainerHandlerFactory(factory, watchTypes)` appends
the factory to the list of each of its sources. -/
def registerContainerHandlerFactory (registry : Registry) (factory : ContainerHandlerFactory)
    (watchTypes : List ContainerWatchSource) : Registry :=
  ⟨registry.entries ++ watchTypes.map fun source => (source, factory)⟩

/-- The `libcontainer.CgroupSubsystems` a factory keeps; only its mount table is read here. -/
structure CgroupSubsystems where
  mounts : List String

/-- `fmt.Errorf(context + "%v", err)` on a callee's error, its value passed through. -/
def wrapError {α : Type} (context : String) : Except String α → Except String α
  | .ok value => .ok value
  | .error err => .error (context ++ err)

/-- The check both `Register` functions make on `libcontainer.GetCgroupSubsystems`, with
the same two messages. -/
def cgroupMountsCheck (subsystems : Except String CgroupSubsystems) : Except String CgroupSubsystems :=
  match wrapError "failed to get cgroup subsystems: " subsystems with
  | .error err => .error err
  | .ok found =>
    if found.mounts.length = 0 then .error "failed to find supported cgroup mounts for the raw factory"
    else .ok found

theorem cgroupMountsCheck_ok_iff (subsystems : Except String CgroupSubsystems) :
    (∃ found, cgroupMountsCheck subsystems = .ok found) ↔
      ∃ found, subsystems = .ok found ∧ found.mounts ≠ [] := by
  cases subsystems with
  | error err => simp [cgroupMountsCheck, wrapError]
  | ok found => by_cases empty : found.mounts = [] <;> simp [cgroupMountsCheck, wrapError, empty]

/-- How both `Register` functions end: the first failed check's error with nothing
registered, or a nil error with the factory built from the checks' results registered
for `watchTypes`. -/
def registerIfReady {α : Type} (ready : Except String α) (factory : α → ContainerHandlerFactory)
    (watchTypes : List ContainerWatchSource) (registry : Registry) : Option String × Registry :=
  match ready with
  | .error err => (some err, registry)
  | .ok built => (none, registerContainerHandlerFactory registry (factory built) watchTypes)

/-- Registration is all or nothing: it succeeds exactly when every check passed, and then
registers the one factory built from them; otherwise the registry is left as it was. -/
theorem registerIfReady_all_or_nothing {α : Type} (ready : Except String α)
    (factory : α → ContainerHandlerFactory) (watchTypes : List ContainerWatchSource)
    (registry : Registry) :
    let result := registerIfReady ready factory watchTypes registry
    ((result.1 = none ↔ ∃ built, ready = .ok built) ∧
      (∀ built, ready = .ok built →
        result.2 = registerContainerHandlerFactory registry (factory built) watchTypes)) ∧
      (result.1 ≠ none → result.2 = registry) := by
  cases ready <;> simp [registerIfReady]

end Cadvisor.Container
