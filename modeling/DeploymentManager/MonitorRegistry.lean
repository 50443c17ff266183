import DeploymentManager.Store

/-!
The monitor registry: `m.monitors`, which maps the key of a resource to the monitor started for
it, and the calls `StartMonitor` and `CancelMonitor`.

`Monitor`, `BuildMonitorKey` and the monitor's `Start` and `Stop` are declared outside src/ and
are modelled from the spec: a monitor has an identity and a key, and its background task is
either running or not. `StartMonitor` writes the new monitor over whatever the map held under its
key without stopping it, so a monitor still running there is left running with no entry in the
map, and `CancelMonitor` on its resource no longer reaches it. When no monitor is started over a
registered one, every running monitor stays registered under its key.
-/

namespace DeploymentManager.MonitorRegistry

open DeploymentManager.Store

/-! `Monitor`, `GetKey`, `BuildMonitorKey` and the monitor's `Start` and `Stop` are declared
outside src/ and modelled from the spec: a monitor is told apart by identity and has the key
`GetKey()` returns, derived from the group, version, kind, namespace and name of its resource, so
two resources never share one; `Start` sets its background task running, and `Stop` ends it and
does nothing to a stopped one. -/

abbrev MonitorKey := GroupVersionKind × ObjectKey

def buildMonitorKey (object : Object) : MonitorKey := object.ref

structure Monitor where
  id : Nat
  key : MonitorKey
  deriving DecidableEq

/-- `WaitForMonitor`, the error that asks the reconcile loop to wait for a monitor. -/
structure WaitForMonitor where
  message : String
  deriving DecidableEq, Repr

def newWaitForMonitor (msg : String) : WaitForMonitor := ⟨msg⟩

/-- `m.monitors`, and the monitors whose background task runs. -/
structure Monitors where
  monitors : AList (fun _ : MonitorKey => Monitor)
  running : List Monitor

def Monitors.empty : Monitors := ⟨∅, []⟩

def Monitors.start (s : Monitors) (monitor : Monitor) : Monitors :=
  { s with running := s.running.insert monitor }

def Monitors.stop (s : Monitors) (monitor : Monitor) : Monitors :=
  { s with running := s.running.filter (· ≠ monitor) }

def startMonitor (s : Monitors) (monitor : Monitor) (message : String) :
    WaitForMonitor × Monitors :=
  let key := monitor.key
  let s := { s with monitors := s.monitors.insert key monitor }
  (newWaitForMonitor message, s.start monitor)

def cancelMonitor (s : Monitors) (object : Object) : Monitors :=
  let key := buildMonitorKey object
  match s.monitors.lookup key with
  | some monitor =>
    let s := s.stop monitor
    { s with monitors := s.monitors.erase key }
  | none => s

inductive MonitorCall
  | startMonitor (monitor : Monitor) (message : String)
  | cancelMonitor (object : Object)

def step (s : Monitors) : MonitorCall → Monitors
  | .startMonitor monitor message => (startMonitor s monitor message).2
  | .cancelMonitor object => cancelMonitor s object

def run (s : Monitors) (calls : List MonitorCall) : Monitors := calls.foldl step s

@[simp] lemma run_nil (s : Monitors) : run s [] = s := rfl

@[simp] lemma run_cons (s : Monitors) (c : MonitorCall) (calls : List MonitorCall) :
    run s (c :: calls) = run (step s c) calls := rfl

/-- Every running monitor is the one registered under its key. -/
def Registered (s : Monitors) : Prop :=
  ∀ monitor ∈ s.running, s.monitors.lookup monitor.key = some monitor

instance (s : Monitors) : Decidable (Registered s) :=
  inferInstanceAs (Decidable (∀ monitor ∈ s.running, _))

/-! ### A monitor started over a running one is orphaned -/

/-- A resource, and two monitors started for it. -/
def watched : Object := ⟨⟨group, version, kindHost⟩, "vim", "controller-0", none, 0⟩

def firstMonitor : Monitor := ⟨1, buildMonitorKey watched⟩

def secondMonitor : Monitor := ⟨2, buildMonitorKey watched⟩

/-- Starting a second monitor for a resource while the first runs leaves the first running with
no entry in the map, and cancelling the resource's monitor then leaves it running still. -/
theorem startMonitor_orphans_running_monitor :
    firstMonitor ∈ (run .empty [.startMonitor firstMonitor "", .startMonitor secondMonitor ""]).running ∧
      (run .empty [.startMonitor firstMonitor "", .startMonitor secondMonitor ""]).monitors.lookup
        firstMonitor.key = some secondMonitor ∧
      firstMonitor ∈ (run .empty [.startMonitor firstMonitor "", .startMonitor secondMonitor "",
        .cancelMonitor watched]).running ∧
      firstMonitor.key = buildMonitorKey watched := by
  decide

/-! ### Monitors started on free keys stay registered -/

/-- A `StartMonitor` on a key with no monitor registered under it: making sure of that is left
to the caller. -/
def Guarded (s : Monitors) : MonitorCall → Prop
  | .startMonitor monitor _ => s.monitors.lookup monitor.key = none
  | .cancelMonitor _ => True

/-- Every call of a sequence is guarded in the registry it runs against. -/
def GuardedRun : Monitors → List MonitorCall → Prop
  | _, [] => True
  | s, c :: calls => Guarded s c ∧ GuardedRun (step s c) calls

instance : (s : Monitors) → (c : MonitorCall) → Decidable (Guarded s c)
  | s, .startMonitor monitor _ => inferInstanceAs (Decidable (s.monitors.lookup monitor.key = none))
  | _, .cancelMonitor _ => inferInstanceAs (Decidable True)

def decGuardedRun : (s : Monitors) → (calls : List MonitorCall) → Decidable (GuardedRun s calls)
  | _, [] => inferInstanceAs (Decidable True)
  | s, c :: calls =>
    have := decGuardedRun (step s c) calls
    inferInstanceAs (Decidable (_ ∧ _))

instance (s : Monitors) (calls : List MonitorCall) : Decidable (GuardedRun s calls) :=
  decGuardedRun s calls

lemma registered_startMonitor {s : Monitors} {monitor : Monitor} (message : String)
    (h : Registered s) (hfree : s.monitors.lookup monitor.key = none) :
    Registered (startMonitor s monitor message).2 := by
  intro m hm
  simp only [startMonitor, Monitors.start, List.mem_insert_iff] at hm ⊢
  rcases hm with rfl | hm
  · exact AList.lookup_insert _
  · have hne : m.key ≠ monitor.key := fun e => by rw [← e, h m hm] at hfree; cases hfree
    rw [AList.lookup_insert_ne hne, h m hm]

lemma registered_cancelMonitor {s : Monitors} (object : Object) (h : Registered s) :
    Registered (cancelMonitor s object) := by
  dsimp only [cancelMonitor]
  split
  · rename_i m0 h0
    intro m hm
    simp only [Monitors.stop, List.mem_filter, decide_eq_true_eq] at hm ⊢
    have hne : m.key ≠ buildMonitorKey object := fun e => hm.2 (by
      have := h m hm.1; rw [e, h0] at this; exact (Option.some.inj this).symm)
    rw [AList.lookup_erase_ne hne, h m hm.1]
  · exact h

lemma registered_step {s : Monitors} {c : MonitorCall} (h : Registered s) (hg : Guarded s c) :
    Registered (step s c) := by
  cases c with
  | startMonitor monitor message => exact registered_startMonitor message h hg
  | cancelMonitor object => exact registered_cancelMonitor object h

/-- **No orphan without a restart**: from a registry whose running monitors are registered, a
sequence that never starts a monitor over a registered one keeps every running monitor
registered under its key. -/
theorem registered_run {s : Monitors} {calls : List MonitorCall} (h : Registered s)
    (hg : GuardedRun s calls) : Registered (run s calls) := by
  induction calls generalizing s with
  | nil => exact h
  | cons c calls ih => exact ih (registered_step h hg.1) hg.2

theorem registered_run_cancel_first :
    Registered .empty ∧
      GuardedRun .empty [.startMonitor firstMonitor "", .cancelMonitor watched,
        .startMonitor secondMonitor ""] ∧
      Registered (run .empty [.startMonitor firstMonitor "", .cancelMonitor watched,
        .startMonitor secondMonitor ""]) :=
  ⟨by decide, by decide, registered_run (by decide) (by decide)⟩

/-- In a registry whose running monitors are registered, `CancelMonitor(object)` leaves no
monitor of `object` running. -/
theorem cancelMonitor_stops_all {s : Monitors} (object : Object) (h : Registered s) :
    ∀ m ∈ (cancelMonitor s object).running, m.key ≠ buildMonitorKey object := by
  intro m hm e
  have hr := registered_cancelMonitor object h m hm
  dsimp only [cancelMonitor] at hr
  split at hr
  · rw [e, AList.lookup_erase] at hr
    cases hr
  · rename_i h0
    rw [e, h0] at hr
    cases hr

theorem cancelMonitor_stops_all_first :
    Registered (run .empty [.startMonitor firstMonitor ""]) ∧
      ∀ m ∈ (cancelMonitor (run .empty [.startMonitor firstMonitor ""]) watched).running,
        m.key ≠ buildMonitorKey watched :=
  ⟨by decide, cancelMonitor_stops_all watched (by decide)⟩

end DeploymentManager.MonitorRegistry
