import DeploymentManager.Interleaving

/-!
The callers of the `PlatformManager` running at once, and `m.lock`.

Every method of `CloudManager` that reads or writes the registries takes `m.lock` at its start
and releases it, by `defer`, when it returns. Between the two it touches the registries only,
and no other caller can reach them while it holds the lock, so its body is one step here.
`ResetPlatformClient` is the one method that holds the lock across requests to the store: it
notifies the system controller before it returns. `NotifySystemDependencies` and `NotifyResource`
take no lock, and their requests interleave with everything else.

A caller is at a place of its method (`Place`); the scheduler lets one caller take a step at a
time (`State.step`), and a caller at `Lock()` while the lock is held stays where it is. Over every
schedule at most one caller holds the lock, and the lock is held exactly when one does, so no
`Unlock()` finds it free; the store replays every accepted bump. No schedule deadlocks: while a
call has not returned, some caller can move, and every schedule of callers that move ends within
a number of steps fixed at the start. Run one after the other, the callers compute what
`Manager.run` computes.
-/

namespace DeploymentManager.Callers

open DeploymentManager.Store DeploymentManager.Notify DeploymentManager.Registry
open DeploymentManager.MonitorRegistry DeploymentManager.Manager DeploymentManager.Thread
open DeploymentManager.Interleaving

/-- A method of `CloudManager` that takes `m.lock`. -/
inductive Locked
  | resetPlatformClient (ns : String)
  | getPlatformClient (ns : String)
  | setSystemReady (ns : String) (value : Bool)
  | getSystemReady (ns : String)
  | setSystemType (ns : String) (value : SystemType)
  | getSystemType (ns : String)
  | startMonitor (monitor : Monitor) (message : String)
  | cancelMonitor (object : Object)

inductive Reply
  | result (r : Result)
  | client (c : Option ServiceClient)
  | ready (value : Bool)
  | systemType (value : SystemType)

/-- Where a caller is in its method: at `m.lock.Lock()`, holding the lock before the body, in a
notification at `pc` (that of `ResetPlatformClient`, holding the lock, or one that takes no lock),
at the deferred `m.lock.Unlock()` returning `r`, or returned. -/
inductive Place
  | entering (l : Locked)
  | holding (l : Locked)
  | notifying (pc : Pc) (locked : Bool)
  | leaving (r : Reply)
  | returned (r : Reply)

namespace Locked

/-- The body of the method, run while the caller holds the lock: where the caller goes next and
the manager after. -/
def body (m : PlatformManager) : Locked → Place × PlatformManager
  | resetPlatformClient ns =>
    match resetClient m.systems ns with
    | (systems, true) => (.notifying (.systemList ns) true, { m with systems })
    | (systems, false) => (.leaving (.result (.returned (.ok ()))), { m with systems })
  | getPlatformClient ns => (.leaving (.client (Registry.getPlatformClient m.systems ns)), m)
  | setSystemReady ns value =>
    (.leaving (.result .done), { m with systems := Registry.setSystemReady m.systems ns value })
  | getSystemReady ns => (.leaving (.ready (Registry.getSystemReady m.systems ns)), m)
  | setSystemType ns value =>
    (.leaving (.result .done), { m with systems := Registry.setSystemType m.systems ns value })
  | getSystemType ns => (.leaving (.systemType (Registry.getSystemType m.systems ns)), m)
  | startMonitor monitor message =>
    let (w, monitors) := MonitorRegistry.startMonitor m.monitors monitor message
    (.leaving (.result (.waitForMonitor w)), { m with monitors })
  | cancelMonitor object =>
    (.leaving (.result .done), { m with monitors := MonitorRegistry.cancelMonitor m.monitors object })

lemma body_resetPlatformClient (m : PlatformManager) (ns : String) :
    (resetPlatformClient ns).body m =
      (if (resetClient m.systems ns).2 then .notifying (.systemList ns) true
       else .leaving (.result (.returned (.ok ()))), { m with systems := (resetClient m.systems ns).1 }) := by
  simp only [body]
  rcases resetClient m.systems ns with ⟨systems, _ | _⟩ <;> rfl

end Locked

namespace Place

/-- A step of a caller at this place, against the manager `m` and the lock `locked`: the place
after, the manager after and the lock after. -/
def step (m : PlatformManager) (locked : Bool) : Place → Place × PlatformManager × Bool
  | entering l => if locked then (entering l, m, true) else (holding l, m, true)
  | holding l => ((l.body m).1, (l.body m).2, locked)
  | notifying (.returned r) true => (leaving (.result (.returned r)), m, locked)
  | notifying (.returned r) false => (returned (.result (.returned r)), m, locked)
  | notifying pc b =>
    (notifying (pc.step m.cluster).1 b, { m with cluster := (pc.step m.cluster).2 }, locked)
  | leaving r => (returned r, m, false)
  | returned r => (returned r, m, locked)

lemma step_notifying {pc : Pc} (h : ∀ r, pc ≠ .returned r) (b : Bool) (m : PlatformManager)
    (locked : Bool) : (notifying pc b).step m locked =
      (notifying (pc.step m.cluster).1 b, { m with cluster := (pc.step m.cluster).2 }, locked) := by
  cases pc <;> first | exact absurd rfl (h _) | cases b <;> rfl

end Place

inductive Method
  | locked (l : Locked)
  | notify (n : Notification)

def Method.start : Method → Place
  | .locked l => .entering l
  | .notify n => .notifying n.start false

/-- The manager, `m.lock`, and where each caller is. -/
structure State where
  manager : PlatformManager
  locked : Bool
  places : List Place

namespace State

def start (m : PlatformManager) (methods : List Method) : State :=
  ⟨m, false, methods.map Method.start⟩

def step (s : State) (i : Nat) : State :=
  match s.places[i]? with
  | some p =>
    ⟨(p.step s.manager s.locked).2.1, (p.step s.manager s.locked).2.2,
      s.places.set i (p.step s.manager s.locked).1⟩
  | none => s

def run (s : State) (sched : List Nat) : State := sched.foldl step s

@[simp] lemma run_nil (s : State) : s.run [] = s := rfl

@[simp] lemma run_cons (s : State) (i : Nat) (sched : List Nat) :
    s.run (i :: sched) = (s.step i).run sched := rfl

lemma step_of_getElem? {s : State} {i : Nat} {p : Place} (h : s.places[i]? = some p) :
    s.step i = ⟨(p.step s.manager s.locked).2.1, (p.step s.manager s.locked).2.2,
      s.places.set i (p.step s.manager s.locked).1⟩ := by
  simp [step, h]

lemma step_of_getElem?_eq_none {s : State} {i : Nat} (h : s.places[i]? = none) : s.step i = s := by
  simp [step, h]

end State

/-! ### At most one caller holds the lock -/

namespace Place

def inside : Place → Bool
  | holding _ => true
  | notifying _ b => b
  | leaving _ => true
  | _ => false

lemma inside_body (m : PlatformManager) (l : Locked) : (l.body m).1.inside = true := by
  cases l with
  | resetPlatformClient ns => rw [Locked.body_resetPlatformClient]; split <;> rfl
  | _ => rfl

/-- A step changes the lock as it changes whether the caller holds it: it takes the lock at
`Lock()`, releases it at `Unlock()`, and otherwise leaves both. -/
lemma lock_step (m : PlatformManager) {locked : Bool} (p : Place) (h : p.inside → locked) :
    (if (p.step m locked).2.2 then 1 else 0) + (if p.inside then 1 else 0) =
      (if locked then 1 else 0) + (if (p.step m locked).1.inside then 1 else 0) := by
  cases p with
  | entering l => cases locked <;> rfl
  | holding l => simp only [step, inside_body]; rfl
  | notifying pc b =>
    cases pc with
    | returned r => cases b <;> rfl
    | _ => rfl
  | leaving r => simp [step, inside, h rfl]
  | returned r => rfl

end Place

lemma inside_start (mth : Method) : mth.start.inside = false := by
  cases mth <;> rfl

namespace State

/-- The number of callers that hold `m.lock` is one when it is locked and zero when it is free. -/
def LockInv (s : State) : Prop := s.places.countP Place.inside = if s.locked then 1 else 0

lemma lockInv_start (m : PlatformManager) (methods : List Method) : (start m methods).LockInv := by
  simp [LockInv, start, List.countP_map, Function.comp_def, inside_start]

lemma lockInv_step {s : State} (hs : s.LockInv) (i : Nat) : (s.step i).LockInv := by
  cases hi : s.places[i]? with
  | none => rwa [step_of_getElem?_eq_none hi]
  | some p =>
    obtain ⟨hlt, rfl⟩ := List.getElem?_eq_some_iff.mp hi
    have hle := List.boole_getElem_le_countP Place.inside s.places i hlt
    rw [hs] at hle
    have hin : s.places[i].inside → s.locked := fun h => by
      cases hl : s.locked <;> simp_all
    have := Place.lock_step s.manager _ hin
    unfold LockInv at hs ⊢
    rw [step_of_getElem? hi, List.countP_set _ _ _ _ hlt, hs]
    dsimp only
    omega

lemma lockInv_run {s : State} (hs : s.LockInv) (sched : List Nat) : (s.run sched).LockInv := by
  induction sched generalizing s with
  | nil => exact hs
  | cons i sched ih => exact ih (lockInv_step hs i)

end State

/-- **Mutual exclusion**: whatever the methods and the schedule, the number of callers that hold
`m.lock` is one when it is locked and zero when it is free, so at most one caller is in a locked
method at a time; and every caller at the deferred `Unlock()` finds the lock locked. -/
theorem callers_mutual_exclusion (m : PlatformManager) (methods : List Method) (sched : List Nat) :
    ((State.start m methods).run sched).places.countP Place.inside =
        (if ((State.start m methods).run sched).locked then 1 else 0) ∧
      ∀ r, Place.leaving r ∈ ((State.start m methods).run sched).places →
        ((State.start m methods).run sched).locked = true := by
  have hs := State.lockInv_run (State.lockInv_start m methods) sched
  refine ⟨hs, fun r hr => ?_⟩
  have hpos : 0 < ((State.start m methods).run sched).places.countP Place.inside :=
    List.countP_pos_iff.mpr ⟨_, hr, rfl⟩
  unfold State.LockInv at hs
  split_ifs at hs with hl
  · exact hl
  · omega

/-! ### The store replays every accepted bump -/

namespace Place

def copies : Place → List Object
  | notifying pc _ => pc.copies
  | _ => []

lemma body_cluster (m : PlatformManager) (l : Locked) : (l.body m).2.cluster = m.cluster := by
  cases l with
  | resetPlatformClient ns => rw [Locked.body_resetPlatformClient]
  | _ => rfl

lemma copies_body (m : PlatformManager) (l : Locked) : (l.body m).1.copies = [] := by
  cases l with
  | resetPlatformClient ns => rw [Locked.body_resetPlatformClient]; split <;> rfl
  | _ => rfl

/-- A step of a caller has an effect on the store, and takes its copies from those it held and
from what the store or its cache answered. -/
lemma effect_step (m : PlatformManager) (locked : Bool) (p : Place) :
    Effect p.copies m.cluster (p.step m locked).2.1.cluster ∧
      ∀ c ∈ (p.step m locked).1.copies, c ∈ p.copies ∨ Held m.cluster c := by
  cases p with
  | holding l =>
    simp only [step]
    rw [body_cluster, copies_body]
    exact ⟨.skip, by simp⟩
  | notifying pc b =>
    by_cases hr : ∃ r, pc = .returned r
    · obtain ⟨r, rfl⟩ := hr
      cases b <;> exact ⟨.skip, by simp [step, copies]⟩
    · rw [step_notifying fun r e => hr ⟨r, e⟩]
      exact step_effect pc m.cluster
  | _ => cases locked <;> exact ⟨.skip, by simp [step, copies]⟩

end Place

namespace State

def StoreInv (s : State) : Prop := ∀ p ∈ s.places, ∀ c ∈ p.copies, Held s.manager.cluster c

lemma storeInv_start (m : PlatformManager) (methods : List Method) :
    (start m methods).StoreInv := by
  intro p hp
  obtain ⟨mth, -, rfl⟩ := List.mem_map.mp hp
  cases mth <;> simp [Method.start, Place.copies, Notification.copies_start]

lemma storeInv_step {s : State} (hs : s.StoreInv) (i : Nat) :
    (s.step i).StoreInv ∧ Replays s.manager.cluster (s.step i).manager.cluster := by
  cases hi : s.places[i]? with
  | none => rw [step_of_getElem?_eq_none hi]; exact ⟨hs, Replays.refl _⟩
  | some p =>
    have hp := hs p (List.getElem?_mem hi)
    obtain ⟨he, hcopies⟩ := Place.effect_step s.manager s.locked p
    rw [step_of_getElem? hi]
    refine ⟨fun p' hp' c hc => ?_, replays_of_effect he hp⟩
    rcases List.mem_or_eq_of_mem_set hp' with hp' | rfl
    · exact held_of_effect he hp (hs p' hp' c hc)
    · exact held_of_copies he hp hcopies c hc

lemma storeInv_run {s : State} (hs : s.StoreInv) (sched : List Nat) :
    (s.run sched).StoreInv ∧ Replays s.manager.cluster (s.run sched).manager.cluster := by
  induction sched generalizing s with
  | nil => exact ⟨hs, Replays.refl _⟩
  | cons i sched ih =>
    obtain ⟨hs', hr⟩ := storeInv_step hs i
    obtain ⟨hinv, hr'⟩ := ih hs'
    exact ⟨hinv, hr.trans hr'⟩

end State

/-- **No bump is lost by the callers**: whatever the methods, the schedule and the failures of
the store, the notifications of `ResetPlatformClient` under the lock included, the store ends
holding the objects it held, each bumped exactly once per update of it that it accepted, and
nothing else changed. -/
theorem callers_replays (m : PlatformManager) (methods : List Method) (sched : List Nat) :
    Replays m.cluster ((State.start m methods).run sched).manager.cluster :=
  (State.storeInv_run (State.storeInv_start m methods) sched).2

/-! ### No deadlock, and every schedule of moving callers ends -/

/-- A bound on the steps of the method, when no listing is longer than `n`: `Lock()`, the body
and `Unlock()`, and for `ResetPlatformClient` the notification and its return besides. -/
def Locked.bound (n : Nat) : Locked → Nat
  | .resetPlatformClient ns => (Pc.systemList ns).bound n + 4
  | _ => 3

namespace Place

def bound (n : Nat) : Place → Nat
  | entering l => l.bound n
  | holding l => l.bound n - 1
  | notifying pc b => pc.bound n + if b then 2 else 1
  | leaving _ => 1
  | returned _ => 0

/-- The caller can move: it has not returned, and it is not at `Lock()` while the lock is held. -/
def moves (locked : Bool) : Place → Bool
  | entering _ => !locked
  | returned _ => false
  | _ => true

lemma length_objects_step (m : PlatformManager) (locked : Bool) (p : Place) :
    (p.step m locked).2.1.cluster.objects.length = m.cluster.objects.length :=
  (effect_step m locked p).1.length_objects

lemma bound_body (n : Nat) (m : PlatformManager) (l : Locked) :
    (l.body m).1.bound n + 2 ≤ l.bound n := by
  cases l with
  | resetPlatformClient ns =>
    rw [Locked.body_resetPlatformClient]
    split <;> simp [bound, Locked.bound]
  | _ => simp [bound, Locked.bound, Locked.body]

lemma bound_step_lt {locked : Bool} {p : Place} (h : p.moves locked) (m : PlatformManager) :
    (p.step m locked).1.bound m.cluster.objects.length < p.bound m.cluster.objects.length := by
  cases p with
  | entering l =>
    cases locked
    · have := bound_body m.cluster.objects.length m l
      show l.bound _ - 1 < l.bound _
      omega
    · cases h
  | holding l =>
    have := bound_body m.cluster.objects.length m l
    show (l.body m).1.bound _ < l.bound _ - 1
    omega
  | notifying pc b =>
    by_cases hr : ∃ r, pc = .returned r
    · obtain ⟨r, rfl⟩ := hr
      cases b <;> simp [step, bound, Pc.bound]
    · rw [step_notifying fun r e => hr ⟨r, e⟩]
      have := (Pc.steps_step pc m.cluster fun r e => hr ⟨r, e⟩).bound
      simp only [bound]
      omega
  | leaving r => simp [step, bound]
  | returned r => cases h

end Place

lemma sum_map_set {f : α → Nat} {l : List α} {i : Nat} {b : α} (h : l[i]? = some b) (a : α) :
    ((l.set i a).map f).sum + f b = (l.map f).sum + f a := by
  induction l generalizing i with
  | nil => simp at h
  | cons x l ih =>
    cases i with
    | zero =>
      obtain rfl : x = b := by simpa using h
      simp only [List.set_cons_zero, List.map_cons, List.sum_cons]
      omega
    | succ i =>
      have := ih (by simpa using h)
      simp only [List.set_cons_succ, List.map_cons, List.sum_cons]
      omega

namespace State

def movable (s : State) (i : Nat) : Bool :=
  match s.places[i]? with
  | some p => p.moves s.locked
  | none => false

def work (s : State) : Nat := (s.places.map (Place.bound s.manager.cluster.objects.length)).sum

lemma work_step_lt {s : State} {i : Nat} (h : s.movable i) : (s.step i).work < s.work := by
  unfold movable at h
  cases hi : s.places[i]? with
  | none => rw [hi] at h; cases h
  | some p =>
    rw [hi] at h
    have hlt := Place.bound_step_lt h s.manager
    have hsum := @sum_map_set _ (Place.bound s.manager.cluster.objects.length) _ _ _ hi
      (p.step s.manager s.locked).1
    unfold work
    rw [step_of_getElem? hi]
    dsimp only
    rw [Place.length_objects_step]
    omega

/-- Every caller the schedule picks can move when it is picked. -/
def Moving : State → List Nat → Prop
  | _, [] => True
  | s, i :: sched => s.movable i = true ∧ Moving (s.step i) sched

def decMoving : (s : State) → (sched : List Nat) → Decidable (Moving s sched)
  | _, [] => inferInstanceAs (Decidable True)
  | s, i :: sched =>
    have := decMoving (s.step i) sched
    inferInstanceAs (Decidable (_ ∧ _))

instance (s : State) (sched : List Nat) : Decidable (Moving s sched) := decMoving s sched

lemma length_le_work {s : State} {sched : List Nat} (h : Moving s sched) : sched.length ≤ s.work := by
  induction sched generalizing s with
  | nil => exact Nat.zero_le _
  | cons i sched ih =>
    have := work_step_lt h.1
    have := ih h.2
    simp only [List.length_cons]
    omega

lemma movable_of_lockInv {s : State} (hs : s.LockInv) :
    (s.locked = true → ∃ i p, s.places[i]? = some p ∧ p.inside = true ∧ s.movable i = true) ∧
      (s.locked = false → ∀ i p, s.places[i]? = some p → (∀ r, p ≠ .returned r) →
        s.movable i = true) := by
  refine ⟨fun hl => ?_, fun hl i p hi hr => ?_⟩
  · have : 0 < s.places.countP Place.inside := by rw [hs, if_pos hl]; omega
    obtain ⟨q, hq, hin⟩ := List.countP_pos_iff.mp this
    obtain ⟨i, hi⟩ := List.mem_iff_getElem?.mp hq
    refine ⟨i, q, hi, hin, ?_⟩
    simp only [movable, hi]
    cases q <;> simp_all [Place.inside, Place.moves]
  · simp only [movable, hi]
    cases p <;> simp_all [Place.moves]

end State

/-- **No deadlock**: whatever the methods and the schedule so far, when `m.lock` is held the
caller holding it can move, and when it is free every caller that has not returned can move. -/
theorem callers_deadlock_free (m : PlatformManager) (methods : List Method) (sched : List Nat) :
    (((State.start m methods).run sched).locked = true →
        ∃ i p, ((State.start m methods).run sched).places[i]? = some p ∧ p.inside = true ∧
          ((State.start m methods).run sched).movable i = true) ∧
      (((State.start m methods).run sched).locked = false →
        ∀ i p, ((State.start m methods).run sched).places[i]? = some p →
          (∀ r, p ≠ .returned r) → ((State.start m methods).run sched).movable i = true) :=
  State.movable_of_lockInv (State.lockInv_run (State.lockInv_start m methods) sched)

/-- Two callers of the registry, the first holding the lock and the second waiting at `Lock()`. -/
def waiting : List Method := [.locked (.getSystemReady "vim"), .locked (.setSystemReady "vim" true)]

def bareManager : PlatformManager := ⟨bareCluster, ∅, .empty⟩

example :
    ((State.start bareManager waiting).run [0]).movable 0 = true ∧
      ((State.start bareManager waiting).run [0]).movable 1 = false := ⟨rfl, rfl⟩

/-- **Every schedule of moving callers ends**: whatever the methods and the store, a schedule in
which every caller picked can move has at most as many steps as the bounds of the methods add up
to, so the callers reach, within that many steps, a point where none can move. -/
theorem callers_moving_bounded (m : PlatformManager) (methods : List Method) {sched : List Nat}
    (h : (State.start m methods).Moving sched) :
    sched.length ≤ (methods.map fun mth => mth.start.bound m.cluster.objects.length).sum := by
  have := State.length_le_work h
  simpa [State.work, State.start, List.map_map, Function.comp_def] using this

theorem callers_moving_bounded_waiting :
    (State.start bareManager waiting).Moving [0, 0, 0, 1, 1, 1] ∧
      [0, 0, 0, 1, 1, 1].length ≤
        (waiting.map fun mth => mth.start.bound bareManager.cluster.objects.length).sum :=
  have h : (State.start bareManager waiting).Moving [0, 0, 0, 1, 1, 1] := by decide
  ⟨h, callers_moving_bounded bareManager waiting h⟩

/-! ### One after the other, the callers run the manager -/

def Method.ofCall : Call → Method
  | .resetPlatformClient ns => .locked (.resetPlatformClient ns)
  | .setSystemReady ns value => .locked (.setSystemReady ns value)
  | .setSystemType ns value => .locked (.setSystemType ns value)
  | .notifySystemDependencies ns => .notify (.notifySystemDependencies ns)
  | .notifyResource object => .notify (.notifyResource object)
  | .startMonitor monitor message => .locked (.startMonitor monitor message)
  | .cancelMonitor object => .locked (.cancelMonitor object)

def results : PlatformManager → List Call → List Result
  | _, [] => []
  | m, c :: calls => (step m c).1 :: results (step m c).2 calls

/-- The callers from caller `i` on, each in turn given as many steps as its bound. -/
def sequential (n : Nat) : Nat → List Method → List Nat
  | _, [] => []
  | i, mth :: methods => List.replicate (mth.start.bound n) i ++ sequential n (i + 1) methods

namespace Place

def run : Nat → Place → PlatformManager → Bool → Place × PlatformManager × Bool
  | 0, p, m, locked => (p, m, locked)
  | k + 1, p, m, locked => run k (p.step m locked).1 (p.step m locked).2.1 (p.step m locked).2.2

lemma run_returned (k : Nat) (r : Reply) (m : PlatformManager) (locked : Bool) :
    (returned r).run k m locked = (returned r, m, locked) := by
  induction k with
  | zero => rfl
  | succ k ih => exact ih

lemma run_notifying {k : Nat} {pc : Pc} {m : PlatformManager} {b : Bool} (locked : Bool)
    (hk : pc.bound m.cluster.objects.length + (if b then 2 else 1) ≤ k) :
    (notifying pc b).run k m locked =
      (returned (.result (.returned (exec pc.rest m.cluster).1)),
        { m with cluster := (exec pc.rest m.cluster).2 }, if b then false else locked) := by
  induction k generalizing pc m with
  | zero => cases b <;> simp at hk
  | succ k ih =>
    by_cases hr : ∃ r, pc = .returned r
    · obtain ⟨r, rfl⟩ := hr
      rw [Pc.exec_rest_returned]
      cases b with
      | false => exact run_returned k _ m locked
      | true =>
        obtain ⟨k, rfl⟩ : ∃ k', k = k' + 1 := ⟨k - 1, by simp [Pc.bound] at hk; omega⟩
        exact run_returned k _ m false
    · have hs := Pc.steps_step pc m.cluster fun r e => hr ⟨r, e⟩
      have hb := hs.bound
      rw [run, step_notifying fun r e => hr ⟨r, e⟩, ih (by simp only [hs.effect.length_objects]; omega),
        Pc.exec_rest_step pc m.cluster]

lemma run_entering {l : Locked} {m m' : PlatformManager} {r : Reply}
    (hb : l.body m = (leaving r, m')) {k : Nat} (hk : 3 ≤ k) :
    (entering l).run k m false = (returned r, m', false) := by
  obtain ⟨k, rfl⟩ : ∃ k', k = k' + 1 + 1 + 1 := ⟨k - 3, by omega⟩
  simp only [run, step, Bool.false_eq_true, if_false, hb, run_returned]

lemma run_notify (n : Notification) (m : PlatformManager) {k : Nat} (locked : Bool)
    (hk : n.start.bound m.cluster.objects.length + 1 ≤ k) :
    (Method.notify n).start.run k m locked =
      (returned (.result (.returned (exec n.code m.cluster).1)),
        { m with cluster := (exec n.code m.cluster).2 }, locked) := by
  rw [Method.start, run_notifying locked hk, Notification.rest_start]
  rfl

end Place

lemma length_objects_manager_step (m : PlatformManager) (c : Call) :
    (step m c).2.cluster.objects.length = m.cluster.objects.length := by
  rcases cluster_step m c with h | ⟨n, h⟩ <;> rw [h]
  obtain ⟨t, -, ho⟩ := replays_exec n m.cluster
  rw [ho, List.length_map]

/-- **One call alone**: run alone from its start with the lock free, the caller of a call returns
within its bound what the call returns, leaves the manager as the call leaves it, and the lock
free. -/
lemma run_ofCall (c : Call) (m : PlatformManager) {k : Nat}
    (hk : (Method.ofCall c).start.bound m.cluster.objects.length ≤ k) :
    (Method.ofCall c).start.run k m false = (.returned (.result (step m c).1), (step m c).2, false) := by
  cases c with
  | resetPlatformClient ns =>
    have hk' : (Pc.systemList ns).bound m.cluster.objects.length + 4 ≤ k := hk
    obtain ⟨k, rfl⟩ : ∃ k', k = k' + 1 + 1 := ⟨k - 2, by omega⟩
    show ((Locked.resetPlatformClient ns).body m).1.run k ((Locked.resetPlatformClient ns).body m).2
      true = _
    rw [Locked.body_resetPlatformClient]
    cases hn : (resetClient m.systems ns).2
    · obtain ⟨k, rfl⟩ : ∃ k', k = k' + 1 := ⟨k - 1, by omega⟩
      simp only [Bool.false_eq_true, if_false, resetClient_of_not_notify hn, Place.run, Place.step,
        Place.run_returned, Manager.step, resetPlatformClient_of_not_notify hn]
    · rw [if_pos rfl, Place.run_notifying true (by simp only [if_true]; omega)]
      simp only [Manager.step, resetPlatformClient_of_notify hn]
      rfl
  | notifySystemDependencies ns => exact Place.run_notify (.notifySystemDependencies ns) m false hk
  | notifyResource object => exact Place.run_notify (.notifyResource object) m false hk
  | _ => exact Place.run_entering (by rfl) hk

namespace State

@[simp] lemma run_append (s : State) (sched₁ sched₂ : List Nat) :
    s.run (sched₁ ++ sched₂) = (s.run sched₁).run sched₂ := List.foldl_append _ _ _ _

lemma set_of_getElem? {l : List α} {i : Nat} {a : α} (h : l[i]? = some a) : l.set i a = l :=
  List.ext_getElem? fun j => by
    rw [List.getElem?_set]
    split_ifs with hij hlt
    · rw [← hij, h]
    · rw [← hij, h]; exact absurd (List.getElem?_eq_some_iff.mp h).1 hlt
    · rfl

lemma run_replicate {s : State} {i : Nat} {p : Place} (h : s.places[i]? = some p) (k : Nat) :
    s.run (List.replicate k i) =
      ⟨(p.run k s.manager s.locked).2.1, (p.run k s.manager s.locked).2.2,
        s.places.set i (p.run k s.manager s.locked).1⟩ := by
  induction k generalizing s p with
  | zero => simp only [List.replicate_zero, run_nil, Place.run, set_of_getElem? h]
  | succ k ih =>
    have hlt := (List.getElem?_eq_some_iff.mp h).1
    rw [List.replicate_succ, run_cons, step_of_getElem? h, ih (List.getElem?_set_self hlt)]
    simp only [Place.run, List.set_set]

/-- **Run**: from callers that have returned `done` and callers of `calls` yet to start, the
sequential schedule runs the calls as `Manager.run` does. -/
lemma run_sequential (m : PlatformManager) (done : List Place) (calls : List Call) :
    State.run ⟨m, false, done ++ (calls.map Method.ofCall).map Method.start⟩
        (sequential m.cluster.objects.length done.length (calls.map Method.ofCall)) =
      ⟨Manager.run m calls, false, done ++ (results m calls).map (.returned ∘ .result)⟩ := by
  induction calls generalizing m done with
  | nil => simp [sequential, results]
  | cons c calls ih =>
    have hi : (done ++ ((c :: calls).map Method.ofCall).map Method.start)[done.length]? =
        some (Method.ofCall c).start := by
      rw [List.getElem?_append_right (le_refl _), Nat.sub_self]
      simp
    have h := ih (Manager.step m c).2 (done ++ [.returned (.result (Manager.step m c).1)])
    rw [length_objects_manager_step, List.length_append, List.length_singleton,
      List.append_assoc] at h
    rw [List.map_cons, sequential, run_append, run_replicate hi, run_ofCall c m le_rfl]
    rw [List.set_append_right _ _ (le_refl _), Nat.sub_self, List.map_cons, List.set_cons_zero]
    simpa [results] using h

end State

/-- **One after the other, the callers run the manager**: for every manager and every sequence
of calls, the callers of the calls, each run alone to its end in turn with as many steps as its
bound, leave the manager that `Manager.run` leaves and the lock free, and each has returned what
its call returns in `Manager.run`. -/
theorem callers_sequential (m : PlatformManager) (calls : List Call) :
    (State.start m (calls.map Method.ofCall)).run
        (sequential m.cluster.objects.length 0 (calls.map Method.ofCall)) =
      ⟨Manager.run m calls, false, (results m calls).map (.returned ∘ .result)⟩ := by
  simpa [State.start] using State.run_sequential m [] calls

end DeploymentManager.Callers
