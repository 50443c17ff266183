import DeploymentManager.Notify
import DeploymentManager.Registry
import DeploymentManager.MonitorRegistry

/-!
The `PlatformManager` as a whole: the store it reaches through the embedded manager, the
registry `m.systems` and the monitor registry, and the methods of `CloudManager` that change them.

Every method that touches the registries takes `m.lock` for its whole run, `ResetPlatformClient`
included, so any interleaving of callers is, for the registries, a sequence of calls, each one
step of `step`. `NotifySystemDependencies` and `NotifyResource` take no lock and touch only the
store; here a call runs to its end before the next, and `Interleaving` lets their requests
interleave. The registry is read as a total function from namespaces to records (`record`), and
each call changes at most one field of one record; over any sequence of calls each field of each
namespace therefore holds what the last call that wrote it wrote.
-/

namespace DeploymentManager.Manager

open DeploymentManager.Store DeploymentManager.Notify DeploymentManager.Registry
open DeploymentManager.MonitorRegistry

structure PlatformManager where
  cluster : Cluster
  systems : Systems
  monitors : Monitors

/-- `ResetPlatformClient`: the map part, then, when it cleared a client, the notification of the
system controller, whose result it returns. -/
def resetPlatformClient (m : PlatformManager) (ns : String) : Except Exit Unit × PlatformManager :=
  match resetClient m.systems ns with
  | (systems, true) =>
    let (r, cluster) := exec (notifySystemController ns) m.cluster
    (r, { m with systems, cluster })
  | (systems, false) => (.ok (), { m with systems })

/-- A call of `CloudManager` that changes the manager. -/
inductive Call
  | resetPlatformClient (ns : String)
  | setSystemReady (ns : String) (value : Bool)
  | setSystemType (ns : String) (value : SystemType)
  | notifySystemDependencies (ns : String)
  | notifyResource (object : RuntimeObject)
  | startMonitor (monitor : Monitor) (message : String)
  | cancelMonitor (object : Object)

/-- What a call returns: nothing, `nil`, a non-nil error or a panic, or the `WaitForMonitor` of
`StartMonitor`. -/
inductive Result
  | done
  | returned (r : Except Exit Unit)
  | waitForMonitor (w : WaitForMonitor)

/-- One call, run to its end; the calls on the registries hold `m.lock` throughout. -/
def step (m : PlatformManager) : Call → Result × PlatformManager
  | .resetPlatformClient ns =>
    let (r, m) := resetPlatformClient m ns
    (.returned r, m)
  | .setSystemReady ns value => (.done, { m with systems := setSystemReady m.systems ns value })
  | .setSystemType ns value => (.done, { m with systems := setSystemType m.systems ns value })
  | .notifySystemDependencies ns =>
    let (r, cluster) := exec (notifySystemDependencies ns) m.cluster
    (.returned r, { m with cluster })
  | .notifyResource object =>
    let (r, cluster) := exec (notifyResource object) m.cluster
    (.returned r, { m with cluster })
  | .startMonitor monitor message =>
    let (w, monitors) := startMonitor m.monitors monitor message
    (.waitForMonitor w, { m with monitors })
  | .cancelMonitor object => (.done, { m with monitors := cancelMonitor m.monitors object })

def run (m : PlatformManager) (calls : List Call) : PlatformManager :=
  calls.foldl (fun m c => (step m c).2) m

@[simp] lemma run_nil (m : PlatformManager) : run m [] = m := rfl

@[simp] lemma run_cons (m : PlatformManager) (c : Call) (calls : List Call) :
    run m (c :: calls) = run (step m c).2 calls := rfl

/-! ### Each field of each namespace holds its last write -/

namespace Call

def readyOf (n : String) : Call → Option Bool
  | .setSystemReady ns value => if n = ns then some value else none
  | _ => none

def typeOf (n : String) : Call → Option SystemType
  | .setSystemType ns value => if n = ns then some value else none
  | _ => none

def resets (n : String) : Call → Bool
  | .resetPlatformClient ns => n = ns
  | _ => false

/-- What a call does to the record of namespace `n`: each field holds what the call writes to
it, and what it held otherwise. -/
def apply (n : String) (r : SystemNamespace) (c : Call) : SystemNamespace :=
  ⟨if c.resets n then none else r.client, (c.readyOf n).getD r.ready,
    (c.typeOf n).getD r.systemType⟩

end Call

lemma resetPlatformClient_systems (m : PlatformManager) (ns : String) :
    (resetPlatformClient m ns).2.systems = (resetClient m.systems ns).1 := by
  unfold resetPlatformClient
  split <;> simp_all

/-- **Step**: a call changes the record of `n` as `Call.apply` says, whatever the store does. -/
lemma record_step (m : PlatformManager) (c : Call) (n : String) :
    record (step m c).2.systems n = Call.apply n (record m.systems n) c := by
  cases c with
  | resetPlatformClient ns =>
    rw [step, resetPlatformClient_systems, record_resetClient]
    by_cases h : n = ns <;> simp [h, Call.apply, Call.resets, Call.readyOf, Call.typeOf]
  | setSystemReady ns value =>
    rw [step, record_setSystemReady]
    by_cases h : n = ns <;> simp [h, Call.apply, Call.resets, Call.readyOf, Call.typeOf]
  | setSystemType ns value =>
    rw [step, record_setSystemType]
    by_cases h : n = ns <;> simp [h, Call.apply, Call.resets, Call.readyOf, Call.typeOf]
  | _ => rfl

lemma record_run (m : PlatformManager) (calls : List Call) (n : String) :
    record (run m calls).systems n = calls.foldl (Call.apply n) (record m.systems n) := by
  induction calls generalizing m with
  | nil => rfl
  | cons c calls ih => rw [run_cons, ih, record_step]; rfl

/-- A field that every call either writes or leaves holds, after a sequence of calls, the last
value written to it, or its value before. -/
lemma foldl_last (n : String) {α : Type} (f : SystemNamespace → α) (w : Call → Option α)
    (hw : ∀ r c, f (Call.apply n r c) = (w c).getD (f r)) (calls : List Call) (r : SystemNamespace) :
    f (calls.foldl (Call.apply n) r) = ((calls.filterMap w).getLast?).getD (f r) := by
  induction calls generalizing r with
  | nil => rfl
  | cons c calls ih =>
    rw [List.foldl_cons, ih, hw, List.filterMap_cons]
    cases w c <;> simp [List.getLast?_cons]

lemma foldl_client (n : String) (calls : List Call) (r : SystemNamespace) :
    (calls.foldl (Call.apply n) r).client =
      if calls.any (·.resets n) then none else r.client := by
  induction calls generalizing r with
  | nil => rfl
  | cons c calls ih =>
    rw [List.foldl_cons, ih, List.any_cons]
    cases h : c.resets n <;> simp [Call.apply, h]

/-- **Last writer wins, per field and per namespace**: after any sequence of calls, every
namespace reads the readiness of the last `SetSystemReady` on it, the type of the last
`SetSystemType` on it, and no client when some `ResetPlatformClient` was made on it, each read as
before the sequence when there was no such call; the map holds one entry per namespace. -/
theorem registry_last_writer_wins (m : PlatformManager) (calls : List Call) (n : String) :
    getSystemReady (run m calls).systems n =
        ((calls.filterMap (·.readyOf n)).getLast?).getD (getSystemReady m.systems n) ∧
      getSystemType (run m calls).systems n =
        ((calls.filterMap (·.typeOf n)).getLast?).getD (getSystemType m.systems n) ∧
      getPlatformClient (run m calls).systems n =
        (if calls.any (·.resets n) then none else (record m.systems n).client) ∧
      (run m calls).systems.keys.Nodup := by
  refine ⟨?_, ?_, ?_, AList.keys_nodup _⟩
  · rw [getSystemReady_eq, getSystemReady_eq, record_run]
    exact foldl_last n SystemNamespace.ready (·.readyOf n) (fun _ _ => rfl) calls _
  · rw [getSystemType_eq, getSystemType_eq, record_run]
    exact foldl_last n SystemNamespace.systemType (·.typeOf n) (fun _ _ => rfl) calls _
  · rw [getPlatformClient_eq, record_run, foldl_client]

/-! ### `ResetPlatformClient` clears the client before it notifies -/

lemma resetPlatformClient_of_notify {m : PlatformManager} {ns : String}
    (h : (resetClient m.systems ns).2 = true) :
    resetPlatformClient m ns = ((exec (notifySystemController ns) m.cluster).1,
      { m with systems := (resetClient m.systems ns).1,
               cluster := (exec (notifySystemController ns) m.cluster).2 }) := by
  unfold resetPlatformClient
  rcases hr : resetClient m.systems ns with ⟨systems, _ | _⟩ <;> simp_all

lemma resetPlatformClient_of_not_notify {m : PlatformManager} {ns : String}
    (h : (resetClient m.systems ns).2 = false) : resetPlatformClient m ns = (.ok (), m) := by
  have hs := resetClient_of_not_notify h
  unfold resetPlatformClient
  rcases hr : resetClient m.systems ns with ⟨systems, _ | _⟩
  · rw [hr] at hs; simp only at hs; subst hs; rfl
  · simp_all

/-- **`ResetPlatformClient` clears, then notifies**: on a namespace with a client, the client is
cleared whatever the store does; the call returns what `NotifySystemController` returns, leaves
the store as that leaves it and no other namespace changed; and a second call then returns `nil`,
with no request to the store and no change. -/
theorem resetPlatformClient_clears_then_notifies (m : PlatformManager) (ns : String)
    (h : (getPlatformClient m.systems ns).isSome) :
    (resetPlatformClient m ns).1 = (exec (notifySystemController ns) m.cluster).1 ∧
      (resetPlatformClient m ns).2.cluster = (exec (notifySystemController ns) m.cluster).2 ∧
      (∀ n, record (resetPlatformClient m ns).2.systems n =
        if n = ns then { record m.systems n with client := none } else record m.systems n) ∧
      resetPlatformClient (resetPlatformClient m ns).2 ns = (.ok (), (resetPlatformClient m ns).2) := by
  have hn : (resetClient m.systems ns).2 = true := by rw [resetClient_notify, h]
  rw [resetPlatformClient_of_notify hn]
  refine ⟨rfl, rfl, record_resetClient m.systems ns, resetPlatformClient_of_not_notify ?_⟩
  rw [resetClient_notify, getPlatformClient_eq, record_resetClient, if_pos rfl]
  rfl

/-- A namespace with a client, and a store that refuses every request. -/
def unreachable : PlatformManager :=
  ⟨⟨[], List.nodup_nil, [], fun _ => some ⟨"connection refused"⟩, fun _ _ => 0, []⟩,
   (∅ : Systems).insert "vim" ⟨some ⟨1⟩, true, systemTypeStandard⟩, .empty⟩

theorem resetPlatformClient_clears_then_notifies_unreachable :
    (getPlatformClient unreachable.systems "vim").isSome ∧
      (resetPlatformClient unreachable "vim").1 =
        (exec (notifySystemController "vim") unreachable.cluster).1 ∧
      (resetPlatformClient unreachable "vim").2.cluster =
        (exec (notifySystemController "vim") unreachable.cluster).2 ∧
      (∀ n, record (resetPlatformClient unreachable "vim").2.systems n =
        if n = "vim" then { record unreachable.systems n with client := none }
        else record unreachable.systems n) ∧
      resetPlatformClient (resetPlatformClient unreachable "vim").2 "vim" =
        (.ok (), (resetPlatformClient unreachable "vim").2) :=
  ⟨rfl, resetPlatformClient_clears_then_notifies unreachable "vim" rfl⟩

/-- When the store refuses the notification, `ResetPlatformClient` returns an error with the
client already cleared, and a retry returns `nil` without asking the store anything. -/
theorem resetPlatformClient_loses_notification :
    getPlatformClient unreachable.systems "vim" = some ⟨1⟩ ∧
      (resetPlatformClient unreachable "vim").1 =
        .error (.error ⟨"failed to query system list: connection refused"⟩) ∧
      getPlatformClient (resetPlatformClient unreachable "vim").2.systems "vim" = none ∧
      (resetPlatformClient (resetPlatformClient unreachable "vim").2 "vim").1 = .ok () ∧
      (resetPlatformClient (resetPlatformClient unreachable "vim").2 "vim").2.cluster.trace =
        [(.list systemGVK "vim", some ⟨"connection refused"⟩)] :=
  ⟨rfl, rfl, rfl, rfl, rfl⟩

end DeploymentManager.Manager
