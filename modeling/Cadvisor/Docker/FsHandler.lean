import Cadvisor.Go.Runtime

/-! The docker filesystem usage corrector (`dockerFsHandler` of
`container/docker/handler.go`): the snapshot of a background directory sampler,
overlaid with the usage a thin-pool or zfs watcher reports for the container. -/

namespace Cadvisor.Docker

/-- `common.FsUsage` -/
structure FsUsage where
  baseUsageBytes : UInt64
  totalUsageBytes : UInt64
  inodeUsage : UInt64
  deriving DecidableEq, Repr

/-- The zero `FsUsage`. -/
def FsUsage.zero : FsUsage := ⟨0, 0, 0⟩

/-- Modelled from the spec: the sampler `common.NewFsHandler` returns (`realFsHandler`,
not under src): the two directory trees it walks, whether its periodic walk runs, and
the last completed sample, zero before the first one. -/
structure FsSampler where
  rootfs : String
  extraDir : String
  running : Bool
  usage : FsUsage
  deriving DecidableEq, Repr

namespace FsSampler

/-- Modelled from the spec: a new sampler of two trees, not started, with no sample yet. -/
def new (rootfs extraDir : String) : FsSampler := ⟨rootfs, extraDir, false, FsUsage.zero⟩

/-- Modelled from the spec: `Start()` -/
def start (self : FsSampler) : FsSampler := { self with running := true }

/-- Modelled from the spec: `Stop()` -/
def stop (self : FsSampler) : FsSampler := { self with running := false }

/-- Modelled from the spec: one tick of the background walk. A completed walk replaces
the snapshot and a failed one keeps it; a stopped sampler does not walk. -/
def sample (self : FsSampler) (walk : Except String FsUsage) : FsSampler :=
  match self.running, walk with
  | true, .ok usage => { self with usage := usage }
  | _, _ => self

end FsSampler

/-- Modelled from the spec: a thin-pool watcher (`devicemapper.ThinPoolWatcher`) or zfs
watcher (`zfs.ZfsWatcher`), by the answer of its `GetUsage(id)`. -/
structure UsageWatcher where
  getUsage : String → Except String UInt64

/-- `dockerFsHandler`; a nil watcher is `none`. -/
structure DockerFsHandler where
  fsHandler : FsSampler
  thinPoolWatcher : Option UsageWatcher
  deviceID : String
  zfsWatcher : Option UsageWatcher
  zfsFilesystem : String

/-- One overlay of `Usage()`: a figure the watcher reports for `id` becomes the base usage
and is added to the total; an absent watcher or a failed query leaves the usage as is. -/
def overlayUsage (watcher : Option UsageWatcher) (id : String) (usage : FsUsage) : FsUsage :=
  match watcher with
  | none => usage
  | some watcher =>
    match watcher.getUsage id with
    | .error _ => usage
    | .ok figure =>
      { usage with baseUsageBytes := figure, totalUsageBytes := usage.totalUsageBytes + figure }

namespace DockerFsHandler

/-- `dockerFsHandler.Start()` -/
def start (h : DockerFsHandler) : DockerFsHandler := { h with fsHandler := h.fsHandler.start }

/-- `dockerFsHandler.Stop()` -/
def stop (h : DockerFsHandler) : DockerFsHandler := { h with fsHandler := h.fsHandler.stop }

/-- A tick of the background sampler the handler wraps. -/
def sample (h : DockerFsHandler) (walk : Except String FsUsage) : DockerFsHandler :=
  { h with fsHandler := h.fsHandler.sample walk }

/-- The handler with its sampler's running flag and last sample replaced: all that
`Start`, `Stop` and the ticks of the walk change. -/
def withSampler (h : DockerFsHandler) (running : Bool) (usage : FsUsage) : DockerFsHandler :=
  { h with fsHandler := { h.fsHandler with running, usage } }

theorem withSampler_self (h : DockerFsHandler) :
    h.withSampler h.fsHandler.running h.fsHandler.usage = h := rfl

theorem sample_eq (h : DockerFsHandler) (walk : Except String FsUsage) :
    ∃ running usage, h.sample walk = h.withSampler running usage := by
  unfold sample FsSampler.sample
  split
  · exact ⟨_, _, rfl⟩
  · exact ⟨_, _, (withSampler_self h).symm⟩

/-- `dockerFsHandler.Usage()`: the thin-pool overlay, then the zfs overlay. -/
def usage (h : DockerFsHandler) : FsUsage :=
  overlayUsage h.zfsWatcher h.zfsFilesystem
    (overlayUsage h.thinPoolWatcher h.deviceID h.fsHandler.usage)

end DockerFsHandler

/-- The figure an overlay contributes: present when its watcher is set and the query succeeds. -/
def overlayFigure (watcher : Option UsageWatcher) (id : String) : Option UInt64 :=
  watcher.bind fun watcher => (watcher.getUsage id).toOption

theorem overlayUsage_eq (watcher : Option UsageWatcher) (id : String) (usage : FsUsage) :
    overlayUsage watcher id usage = match overlayFigure watcher id with
      | none => usage
      | some figure => ⟨figure, usage.totalUsageBytes + figure, usage.inodeUsage⟩ := by
  rcases watcher with _ | watcher
  · rfl
  · simp only [overlayUsage, overlayFigure, Option.some_bind]
    cases watcher.getUsage id <;> rfl

private theorem le_iff_toNat_le (a b : UInt64) : a ≤ b ↔ a.toNat ≤ b.toNat := Iff.rfl

/-- `Usage()` keeps the sampler's inode count; its base usage is the zfs figure, else the
thin-pool figure, else the sampler's; its total is the sampler's total plus every figure,
modulo 2^64 as `uint64` arithmetic wraps; and when some figure is present and the exact sum
fits in 64 bits, the total is at least the base. -/
theorem usage_eq (h : DockerFsHandler) :
    let thin := overlayFigure h.thinPoolWatcher h.deviceID
    let zfs := overlayFigure h.zfsWatcher h.zfsFilesystem
    let sampled := h.fsHandler.usage
    h.usage.inodeUsage = sampled.inodeUsage ∧
      h.usage.baseUsageBytes = (zfs <|> thin).getD sampled.baseUsageBytes ∧
      h.usage.totalUsageBytes.toNat =
        (sampled.totalUsageBytes.toNat + (thin.getD 0).toNat + (zfs.getD 0).toNat) % 2 ^ 64 ∧
      ((thin.isSome ∨ zfs.isSome) ∧
          sampled.totalUsageBytes.toNat + (thin.getD 0).toNat + (zfs.getD 0).toNat < 2 ^ 64 →
        h.usage.baseUsageBytes ≤ h.usage.totalUsageBytes) := by
  dsimp only
  have total := h.fsHandler.usage.totalUsageBytes.toNat_lt
  rcases figureThin : overlayFigure h.thinPoolWatcher h.deviceID with _ | thinFigure <;>
    rcases figureZfs : overlayFigure h.zfsWatcher h.zfsFilesystem with _ | zfsFigure <;>
    simp only [DockerFsHandler.usage, overlayUsage_eq, figureThin, figureZfs, Option.orElse_none,
      Option.none_orElse, Option.some_orElse, Option.getD_none, Option.getD_some, Option.isSome_none,
      Option.isSome_some, UInt64.toNat_add, UInt64.toNat_ofNat, UInt64.size, Nat.zero_mod,
      Nat.mod_add_mod, add_zero, Bool.false_eq_true, or_self, or_true, or_false, false_and, true_and,
      and_true, IsEmpty.forall_iff, le_iff_toNat_le] <;>
    omega

/-- A thin-pool figure on a sampled total at the top of the `uint64` range wraps the
total around, below the base. -/
theorem usage_total_wraps_below_base :
    let h : DockerFsHandler :=
      ⟨⟨"", "", true, ⟨0, 18446744073709551615, 0⟩⟩, some ⟨fun _ => .ok 1⟩, "pool-dev-1", none, ""⟩
    h.usage.totalUsageBytes = 0 ∧ h.usage.totalUsageBytes < h.usage.baseUsageBytes := by
  decide

end Cadvisor.Docker
