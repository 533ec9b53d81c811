import Cadvisor.Go.Strings
import Cadvisor.Info

/-! The netlink load reader (`utils/cpuload/netlink/reader.go`). A reader holds one
netlink connection for its whole life; each call is modelled by what it returns
and by the effects it has on kernel objects, with the outcome of every kernel
exchange given as an input of the call. -/

namespace Cadvisor.Netlink

open Cadvisor.Go Cadvisor.Info

/-- The package's netlink `Connection`, by its socket. -/
structure Connection where
  fd : Nat
  deriving DecidableEq, Repr

/-- The messages the reader puts on its connection. -/
inductive Request where
  /-- The generic-netlink "get family" query for the task-stats family. -/
  | getFamily
  /-- The cgroup-stats query for the open cgroup directory `fd`. -/
  | cgroupStats (familyId : UInt16) (fd : Nat)
  deriving DecidableEq, Repr

/-- What a call does to kernel objects, in order. -/
inductive Effect where
  | connOpened (conn : Connection)
  | connClosed (conn : Connection)
  | sent (conn : Connection) (request : Request)
  | fileOpened (path : String) (fd : Nat)
  | fileClosed (fd : Nat)
  deriving DecidableEq, Repr

/-- Whether an effect puts a message on `conn`. -/
def Effect.isRequestOn (conn : Connection) : Effect → Bool
  | .sent target _ => target == conn
  | _ => false

/-- `NetlinkReader`; `conn` is `none` for a nil connection. -/
structure NetlinkReader where
  familyId : UInt16
  conn : Option Connection
  deriving DecidableEq, Repr

/-- Modelled from the spec: `getFamilyId(conn)` of `netlink.go` (not under src) sends
the "resolve family by name" message and waits for its reply, `family`. -/
def getFamilyId (conn : Connection) (family : Except String UInt16) :
    Except String UInt16 × List Effect :=
  (family, [.sent conn .getFamily])

/-- `New()`, given the outcomes of `newConnection()` and of the family handshake. -/
def new (opened : Except String Connection) (family : Except String UInt16) :
    Except String NetlinkReader × List Effect :=
  match opened with
  | .error err => (.error ("failed to create a new connection: " ++ err), [])
  | .ok conn =>
    match getFamilyId conn family with
    | (.error err, handshake) =>
      (.error ("failed to get netlink family id for task stats: " ++ err), .connOpened conn :: handshake)
    | (.ok id, handshake) => (.ok ⟨id, some conn⟩, .connOpened conn :: handshake)

/-- `Stop()` -/
def NetlinkReader.stop (self : NetlinkReader) : List Effect :=
  match self.conn with
  | some conn => [.connClosed conn]
  | none => []

/-- Modelled from the spec: `getLoadStats(familyId, cfd, conn)` of `netlink.go` (not
under src) sends one stats request for the descriptor and waits for one reply, `reply`;
on a nil connection it dereferences nil. -/
def getLoadStats (familyId : UInt16) (fd : Nat) (conn : Option Connection)
    (reply : Except String LoadStats) : GoResult LoadStats × List Effect :=
  match conn with
  | none => (.panic (.nilDereference "conn"), [])
  | some conn =>
    ((match reply with | .ok stats => .ok stats | .error err => .error err),
      [.sent conn (.cgroupStats familyId fd)])

/-- `GetCpuLoad(name, path)`, given the outcome of `os.Open(path)` (the descriptor of the
open directory) and of the kernel exchange. The deferred `cfd.Close()` runs on every
exit after the open, a panic included. -/
def NetlinkReader.getCpuLoad (self : NetlinkReader) (_name path : String)
    (opened : Except String Nat) (reply : Except String LoadStats) :
    GoResult LoadStats × List Effect :=
  if path.isEmpty then (.error "cgroup path can not be empty!", [])
  else match opened with
    | .error err => (.error ("failed to open cgroup path " ++ path ++ ": " ++ quote err), [])
    | .ok fd =>
      let (stats, exchange) := getLoadStats self.familyId fd self.conn reply
      (stats, .fileOpened path fd :: exchange ++ [.fileClosed fd])

/-- One call on a reader, with the outcomes of its kernel exchanges. -/
inductive Op where
  | start
  | stop
  | getCpuLoad (name path : String) (opened : Except String Nat) (reply : Except String LoadStats)

/-- `Stop()` calls. -/
def Op.isStop : Op → Bool
  | .stop => true
  | _ => false

/-- The calls that reach the kernel exchange: a non-empty path whose directory opened. -/
def Op.sendsRequest : Op → Bool
  | .getCpuLoad _ path (.ok _) _ => !path.isEmpty
  | _ => false

/-- One call: whether it returned or panicked, and its effects. `Start()` does nothing. -/
def NetlinkReader.call (self : NetlinkReader) : Op → GoResult Unit × List Effect
  | .start => (.ok (), [])
  | .stop => (.ok (), self.stop)
  | .getCpuLoad name path opened reply =>
    let (stats, effects) := self.getCpuLoad name path opened reply
    (stats >>= fun _ => .ok (), effects)

/-- The effects of a sequence of calls on one reader, up to the first panic. -/
def NetlinkReader.run (self : NetlinkReader) : List Op → List Effect
  | [] => []
  | op :: rest =>
    match self.call op with
    | (.panic _, effects) => effects
    | (_, effects) => effects ++ self.run rest

/-- A whole session: `New()`, then the calls on the reader it returns. -/
def session (opened : Except String Connection) (family : Except String UInt16)
    (ops : List Op) : List Effect :=
  match new opened family with
  | (.ok reader, effects) => effects ++ reader.run ops
  | (.error _, effects) => effects

/-- Whether an effect opens a cgroup directory. -/
def Effect.isFileOpen : Effect → Bool
  | .fileOpened _ _ => true
  | _ => false

/-- Whether an effect closes a cgroup directory. -/
def Effect.isFileClose : Effect → Bool
  | .fileClosed _ => true
  | _ => false

section Live

variable {self : NetlinkReader} {conn : Connection}

/-- What one call does on a live connection `conn`: `Start()` nothing, `Stop()` closes
the connection, and `GetCpuLoad` on a non-empty path whose directory opens as `fd` opens
it, sends the stats request for `fd` and closes `fd`, in that order. -/
def callEffects (familyId : UInt16) (conn : Connection) : Op → List Effect
  | .start => []
  | .stop => [.connClosed conn]
  | .getCpuLoad _ path opened _ =>
    if path.isEmpty then [] else
      match opened with
      | .error _ => []
      | .ok fd => [.fileOpened path fd, .sent conn (.cgroupStats familyId fd), .fileClosed fd]

/-- On a live connection a call never panics, and its effects are `callEffects`. -/
theorem call_of_conn (live : self.conn = some conn) (op : Op) :
    (∀ cause, (self.call op).1 ≠ .panic cause) ∧ (self.call op).2 = callEffects self.familyId conn op := by
  rcases self with ⟨familyId, _⟩
  subst live
  cases op with
  | start => simp [NetlinkReader.call, callEffects]
  | stop => simp [NetlinkReader.call, NetlinkReader.stop, callEffects]
  | getCpuLoad name path opened reply =>
    by_cases empty : path.isEmpty
    · simp [NetlinkReader.call, NetlinkReader.getCpuLoad, callEffects, empty]
    · rcases opened with err | fd <;> [skip; rcases reply with err | stats] <;>
        simp [NetlinkReader.call, NetlinkReader.getCpuLoad, getLoadStats, callEffects, empty]

theorem run_cons_of_conn (live : self.conn = some conn) (op : Op) (ops : List Op) :
    self.run (op :: ops) = callEffects self.familyId conn op ++ self.run ops := by
  obtain ⟨returns, effects⟩ := call_of_conn live op
  rw [← effects, NetlinkReader.run.eq_2]
  split
  · rename_i cause _ called
    exact absurd (congrArg Prod.fst called) (returns cause)
  · rename_i called
    simp [called]

theorem run_eq_flatMap (live : self.conn = some conn) :
    ∀ ops : List Op, self.run ops = ops.flatMap (callEffects self.familyId conn)
  | [] => rfl
  | op :: ops => by rw [run_cons_of_conn live, run_eq_flatMap live ops, List.flatMap_cons]

/-- What a run of calls does with the connection `conn`: it closes it once per
`Stop()`, sends one request per call that reaches the kernel exchange, never opens a
connection, and closes every cgroup directory it opens. -/
structure ConnectionUse (conn : Connection) (ops : List Op) (effects : List Effect) : Prop where
  closes : effects.count (.connClosed conn) = ops.countP Op.isStop
  requests : effects.countP (Effect.isRequestOn conn) = ops.countP Op.sendsRequest
  noOpen : ∀ other, Effect.connOpened other ∉ effects
  filesClosed : effects.countP Effect.isFileOpen = effects.countP Effect.isFileClose

private theorem callEffects_use (familyId : UInt16) (conn : Connection) (op : Op) :
    ConnectionUse conn [op] (callEffects familyId conn op) := by
  cases op with
  | start => exact ⟨rfl, rfl, by simp [callEffects], rfl⟩
  | stop => exact ⟨by simp [callEffects, Op.isStop], rfl, by simp [callEffects], rfl⟩
  | getCpuLoad name path opened reply =>
    by_cases empty : path.isEmpty <;> rcases opened with err | fd <;> constructor <;>
      simp [callEffects, empty, Op.isStop, Op.sendsRequest, Effect.isRequestOn,
        Effect.isFileOpen, Effect.isFileClose]

private theorem ConnectionUse.append {ops more : List Op} {effects rest : List Effect}
    (first : ConnectionUse conn ops effects) (second : ConnectionUse conn more rest) :
    ConnectionUse conn (ops ++ more) (effects ++ rest) where
  closes := by simp [List.countP_append, first.closes, second.closes]
  requests := by simp [List.countP_append, first.requests, second.requests]
  noOpen other := by simp [first.noOpen other, second.noOpen other]
  filesClosed := by simp [List.countP_append, first.filesClosed, second.filesClosed]

theorem run_connectionUse (live : self.conn = some conn) :
    ∀ ops : List Op, ConnectionUse conn ops (self.run ops)
  | [] => ⟨rfl, rfl, by simp [NetlinkReader.run], rfl⟩
  | op :: ops => by
    rw [run_cons_of_conn live]
    exact (callEffects_use self.familyId conn op).append (run_connectionUse live ops)

end Live

/-- A session whose `New()` succeeds: the handshake opens the connection and queries the
family, and then each call does exactly what `callEffects` says, in call order, `Stop()`
or not before it; so the run closes the connection once per `Stop()`, sends one request
per call that reaches the kernel, opens no connection and closes every directory it
opens. When the handshake fails, the opened connection is never closed. -/
theorem session_connectionUse (conn : Connection) (id : UInt16) (ops : List Op) :
    new (.ok conn) (.ok id) = (.ok ⟨id, some conn⟩, [.connOpened conn, .sent conn .getFamily]) ∧
      session (.ok conn) (.ok id) ops =
        [.connOpened conn, .sent conn .getFamily] ++ ops.flatMap (callEffects id conn) ∧
      ConnectionUse conn ops (ops.flatMap (callEffects id conn)) ∧
      ∀ err, session (.ok conn) (.error err) ops = [.connOpened conn, .sent conn .getFamily] := by
  have effects : NetlinkReader.run ⟨id, some conn⟩ ops = ops.flatMap (callEffects id conn) :=
    run_eq_flatMap rfl ops
  exact ⟨rfl, by rw [← effects]; rfl, effects ▸ run_connectionUse rfl ops,
    fun _ => rfl⟩

/-- Two `Stop()` calls close the connection twice. -/
theorem session_stop_twice_closes_twice :
    (session (.ok ⟨3⟩) (.ok 1) [.stop, .stop]).count (.connClosed ⟨3⟩) = 2 := by decide

/-- Whatever calls follow, a session opens its connection once, and closes it once per
`Stop()` when the family handshake succeeds and never when it fails. -/
theorem session_connection_count (conn : Connection) (family : Except String UInt16) (ops : List Op) :
    (session (.ok conn) family ops).count (.connOpened conn) = 1 ∧
      (session (.ok conn) family ops).count (.connClosed conn) =
        match family with
        | .ok _ => ops.countP Op.isStop
        | .error _ => 0 := by
  cases family with
  | error err => simp [session, new, getFamilyId]
  | ok id =>
    have use : ConnectionUse conn ops (NetlinkReader.run ⟨id, some conn⟩ ops) := run_connectionUse rfl ops
    simp [session, new, getFamilyId, List.count_cons, use.closes, List.count_eq_zero.mpr (use.noOpen conn)]

end Cadvisor.Netlink
