import Cadvisor.Go.Strings
import Cadvisor.Container.Factory

/-! The raw factory (`container/raw/factory.go`): its admission decision and its
`Register`. Under `--docker_only` the decision reads the first entry of the prefix
white list, which stands for "no white list" when it is empty; it then accepts a name
that starts with any listed prefix. -/

namespace Cadvisor.Raw

open Cadvisor.Go Cadvisor.Container

/-- The field of `rawFactory` that `CanHandleAndAccept` reads. -/
structure RawFactory where
  rawPrefixWhiteList : List String
  deriving DecidableEq, Repr

/-- `rawFactory.String()` -/
def RawFactory.string (_ : RawFactory) : String := "raw"

/-- The loop over `rawPrefixWhiteList`: accept a name under any listed prefix. -/
def acceptWhiteListed (self : RawFactory) (name : String) : GoResult (Bool × Bool × Option String) :=
  .ok (true, self.rawPrefixWhiteList.any (hasPrefix name), none)

/-- `rawFactory.CanHandleAndAccept(name)` under the `--docker_only` flag `dockerOnly`:
can handle, should accept, and the error. -/
def canHandleAndAccept (dockerOnly : Bool) (self : RawFactory) (name : String) :
    GoResult (Bool × Bool × Option String) :=
  if name = "/" then .ok (true, true, none)
  else if dockerOnly then
    index self.rawPrefixWhiteList 0 >>= fun first =>
      if first = "" then .ok (true, false, none) else acceptWhiteListed self name
  else acceptWhiteListed self name

/-- The admission policy: the root, and otherwise a name under a listed prefix,
unless `--docker_only` is set and the list starts with the empty entry. -/
def RawAccepts (dockerOnly : Bool) (whiteList : List String) (name : String) : Prop :=
  name = "/" ∨ (¬(dockerOnly = true ∧ whiteList.head? = some "") ∧
    ∃ pre ∈ whiteList, hasPrefix name pre = true)

instance (dockerOnly : Bool) (whiteList : List String) (name : String) :
    Decidable (RawAccepts dockerOnly whiteList name) :=
  inferInstanceAs (Decidable (_ ∨ _))

private theorem acceptWhiteListed_eq (dockerOnly : Bool) (self : RawFactory) (name : String)
    (notRoot : name ≠ "/") (unguarded : ¬(dockerOnly = true ∧ self.rawPrefixWhiteList.head? = some "")) :
    acceptWhiteListed self name =
      .ok (true, decide (RawAccepts dockerOnly self.rawPrefixWhiteList name), none) := by
  simp [acceptWhiteListed, RawAccepts, notRoot, unguarded, List.any_eq]

/-- The raw factory always can handle a name and never returns an error; it panics
on `W[0]` exactly when `--docker_only` is set, the name is not the root and the white
list is empty; otherwise it accepts by `RawAccepts`, which reads the list only through
its set of prefixes and whether its first entry is empty. -/
theorem canHandleAndAccept_eq (dockerOnly : Bool) (self : RawFactory) (name : String) :
    canHandleAndAccept dockerOnly self name =
      if name ≠ "/" ∧ dockerOnly = true ∧ self.rawPrefixWhiteList = [] then
        .panic (.indexOutOfRange 0 0)
      else .ok (true, decide (RawAccepts dockerOnly self.rawPrefixWhiteList name), none) := by
  rcases self with ⟨whiteList⟩
  by_cases root : name = "/"
  · simp [canHandleAndAccept, root, RawAccepts]
  cases dockerOnly with
  | false => simpa [canHandleAndAccept, root] using acceptWhiteListed_eq false ⟨whiteList⟩ name root
  | true =>
    cases whiteList with
    | nil => simp [canHandleAndAccept, root, index]
    | cons first rest =>
      by_cases blank : first = ""
      · simp [canHandleAndAccept, root, index, blank, RawAccepts]
      · simpa [canHandleAndAccept, root, index, blank] using
          acceptWhiteListed_eq true ⟨first :: rest⟩ name root (by simp [blank])

/-- With `--docker_only` off, a name outside every listed prefix is rejected. -/
theorem canHandleAndAccept_rejects_unlisted :
    canHandleAndAccept false ⟨["/system"]⟩ "/docker/abc" = .ok (true, false, none) := by decide

/-- The `rawFactory` that `Register` installs, as a `ContainerHandlerFactory` value. The
`--docker_only` flag it reads is set once, when the flags are parsed. -/
def RawFactory.toFactory (dockerOnly : Bool) (self : RawFactory) : ContainerHandlerFactory :=
  ⟨self.string, canHandleAndAccept dockerOnly self⟩

/-- The checks of `Register`: the cgroup mount table, then `common.NewInotifyWatcher()`. -/
def registerChecks (subsystems : Except String CgroupSubsystems) (watcher : Except String Unit) :
    Except String (CgroupSubsystems × Unit) := do
  let found ← cgroupMountsCheck subsystems
  let created ← watcher
  pure (found, created)

/-- `Register(machineInfoFactory, fsInfo, includedMetrics, rawPrefixWhiteList)`, given the
answers of `libcontainer.GetCgroupSubsystems` and `common.NewInotifyWatcher`: its error,
and the registry after it. -/
def register (dockerOnly : Bool) (subsystems : Except String CgroupSubsystems)
    (watcher : Except String Unit) (rawPrefixWhiteList : List String) (registry : Registry) :
    Option String × Registry :=
  registerIfReady (registerChecks subsystems watcher)
    (fun _ => RawFactory.toFactory dockerOnly ⟨rawPrefixWhiteList⟩) [.raw] registry

private theorem registerChecks_ok_iff (subsystems : Except String CgroupSubsystems)
    (watcher : Except String Unit) :
    (∃ built, registerChecks subsystems watcher = .ok built) ↔
      (∃ found, subsystems = .ok found ∧ found.mounts ≠ []) ∧ watcher = .ok () := by
  rw [← cgroupMountsCheck_ok_iff]
  rcases checked : cgroupMountsCheck subsystems with err | found <;> cases watcher <;>
    simp [registerChecks, checked, bind, Except.bind, pure, Except.pure]

/-- The raw factory is registered, for the raw watch source, exactly when the cgroup
subsystems are found with a non-empty mount table and the inotify watcher is created;
otherwise `Register` returns the error and leaves the registry as it was. -/
theorem register_succeeds_iff_mounts_and_watcher (dockerOnly : Bool) (subsystems : Except String CgroupSubsystems)
    (watcher : Except String Unit) (rawPrefixWhiteList : List String) (registry : Registry) :
    let result := register dockerOnly subsystems watcher rawPrefixWhiteList registry
    ((result.1 = none ↔ (∃ found, subsystems = .ok found ∧ found.mounts ≠ []) ∧ watcher = .ok ()) ∧
      (result.1 = none → result.2 = registerContainerHandlerFactory registry
        (RawFactory.toFactory dockerOnly ⟨rawPrefixWhiteList⟩) [.raw])) ∧
      (result.1 ≠ none → result.2 = registry) := by
  obtain ⟨⟨succeeds, registered⟩, unchanged⟩ := registerIfReady_all_or_nothing
    (registerChecks subsystems watcher) (fun _ => RawFactory.toFactory dockerOnly ⟨rawPrefixWhiteList⟩)
    [.raw] registry
  refine ⟨⟨succeeds.trans (registerChecks_ok_iff subsystems watcher), fun ok => ?_⟩, unchanged⟩
  obtain ⟨built, checked⟩ := succeeds.mp ok
  exact registered built checked

end Cadvisor.Raw
