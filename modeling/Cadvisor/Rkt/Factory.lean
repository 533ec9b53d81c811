import Cadvisor.Container.Factory

/-! The rkt factory (`container/rkt/factory.go`). Its admission decision is the answer of
`verifyPod` alone, and its `Register` makes two checks of its own, on the rkt API service
and the rkt path, before the cgroup check it shares with the raw factory, message
included. -/

namespace Cadvisor.Rkt

open Cadvisor.Go Cadvisor.Container

/-- `rktFactory.String()` -/
def string : String := "rkt"

/-- `rktFactory.CanHandleAndAccept(name)`, given `verifyPod`: the pod test decides both
whether the factory can handle the name and whether it accepts it. -/
def canHandleAndAccept (verifyPod : String → Bool × Option String) (name : String) :
    GoResult (Bool × Bool × Option String) :=
  match verifyPod name with
  | (accept, err) => .ok (accept, accept, err)

/-- The `rktFactory` that `Register` installs, as a `ContainerHandlerFactory` value. -/
def factory (verifyPod : String → Bool × Option String) : ContainerHandlerFactory :=
  ⟨string, canHandleAndAccept verifyPod⟩

/-- The checks of `Register`: `Client()`, `RktPath()`, then the cgroup mount table. -/
def registerChecks (client : Except String Unit) (rktPath : Except String String)
    (subsystems : Except String CgroupSubsystems) : Except String (String × CgroupSubsystems) := do
  let _ ← wrapError "unable to communicate with Rkt api service: " client
  let path ← wrapError "unable to get the RktPath variable " rktPath
  let found ← cgroupMountsCheck subsystems
  pure (path, found)

/-- `Register(machineInfoFactory, fsInfo, includedMetrics)`, given the answers of
`Client()`, `RktPath()`, `libcontainer.GetCgroupSubsystems` and of `verifyPod` on every
name: its error, and the registry after it. -/
def register (client : Except String Unit) (rktPath : Except String String)
    (subsystems : Except String CgroupSubsystems) (verifyPod : String → Bool × Option String)
    (registry : Registry) : Option String × Registry :=
  registerIfReady (registerChecks client rktPath subsystems) (fun _ => factory verifyPod) [.rkt] registry

private theorem registerChecks_ok_iff (client : Except String Unit) (rktPath : Except String String)
    (subsystems : Except String CgroupSubsystems) :
    (∃ built, registerChecks client rktPath subsystems = .ok built) ↔
      client = .ok () ∧ (∃ path, rktPath = .ok path) ∧
        ∃ found, subsystems = .ok found ∧ found.mounts ≠ [] := by
  rw [← cgroupMountsCheck_ok_iff]
  rcases checked : cgroupMountsCheck subsystems with err | found <;> cases client <;>
    cases rktPath <;> simp [registerChecks, checked, wrapError, bind, Except.bind, pure, Except.pure]

/-- The rkt factory is registered, for the rkt watch source, exactly when the rkt API
service answers, the rkt path is found and the cgroup mount table is not empty; otherwise
`Register` returns the error and leaves the registry as it was. -/
theorem register_succeeds_iff_service_path_and_mounts (client : Except String Unit) (rktPath : Except String String)
    (subsystems : Except String CgroupSubsystems) (verifyPod : String → Bool × Option String)
    (registry : Registry) :
    let result := register client rktPath subsystems verifyPod registry
    ((result.1 = none ↔ client = .ok () ∧ (∃ path, rktPath = .ok path) ∧
        ∃ found, subsystems = .ok found ∧ found.mounts ≠ []) ∧
      (result.1 = none → result.2 = registerContainerHandlerFactory registry (factory verifyPod) [.rkt])) ∧
      (result.1 ≠ none → result.2 = registry) := by
  obtain ⟨⟨succeeds, registered⟩, unchanged⟩ := registerIfReady_all_or_nothing
    (registerChecks client rktPath subsystems) (fun _ => factory verifyPod) [.rkt] registry
  refine ⟨⟨succeeds.trans (registerChecks_ok_iff client rktPath subsystems), fun ok => ?_⟩, unchanged⟩
  obtain ⟨built, checked⟩ := succeeds.mp ok
  exact registered built checked

end Cadvisor.Rkt
