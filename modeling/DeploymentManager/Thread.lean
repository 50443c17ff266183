import DeploymentManager.Notify

/-!
The notification calls as threads.

`NotifySystemDependencies` and `NotifyResource` do not take `m.lock`, and `NotifySystemController`
holds it only against the registry, so calls made at once by different controllers reach the
store in any interleaving of their requests. A thread is a call at a point of its code: the
program counter `Pc` names the loop the call is in and holds the objects it has read and not yet
written, and `Pc.next` runs the code of one step, at most one request, reusing the loop bodies of
the calls themselves.

Run alone, a thread does what the call does. `Pc.rest` is the code left to run at a point, a step
leaves it unchanged (`exec_rest_step`), and every step before the thread returns lowers
`Pc.bound`, so a thread started at a call returns within that bound what the call returns, with
the store the call leaves (`run_start`).
-/

namespace DeploymentManager.Thread

open DeploymentManager.Store DeploymentManager.Notify

/-- Where a notification call is: `NotifySystemController(ns)` before its `List`, or in its loop
with the listed objects not yet written; `notifyControllers(ns, gvks)` at the head of its loop
over the types, or in its object loop with the listed objects not yet visited and the types after
the present one; `notifyController(object)` before its `Get`, or holding the object its `Get` read;
or returned (or panicked). -/
inductive Pc
  | systemList (ns : String)
  | systemObjects (objs : List Object)
  | controllers (ns : String) (gvks : List GroupVersionKind)
  | objects (ns : String) (objs : List Object) (gvks : List GroupVersionKind)
  | resourceGet (obj : Object)
  | resourceUpdate (result : Object)
  | returned (r : Except Exit Unit)

/-- What one step of a thread holding the copies `held` does to the store: nothing, a read, or
the write of its first copy, bumped. -/
inductive Effect (held : List Object) (cl : Cluster) : Cluster → Prop
  | skip : Effect held cl cl
  | read (r : Request) (hr : updateOf r = none) : Effect held cl (cl.serve r)
  | write {c : Object} (hc : held.head? = some c) : Effect held cl (cl.serve (.update (bumped c)))

lemma Effect.length_objects {held : List Object} {cl cl' : Cluster} (h : Effect held cl cl') :
    cl'.objects.length = cl.objects.length := by
  cases h <;> simp

namespace Pc

/-- The code of one step at `pc`, and where it leaves the call. -/
def next : Pc → ClientM Pc
  | systemList ns => do
    let systems ← check (listCached systemGVK ns) "failed to query system list"
    pure (systemObjects systems)
  | systemObjects [] => pure (returned (.ok ()))
  | systemObjects (obj :: objs) => do
    notifySystemObject obj
    pure (systemObjects objs)
  | controllers _ [] => pure (returned (.ok ()))
  | controllers ns (gvk :: gvks) => do
    let objs ← check (list gvk ns) ("failed to query " ++ gvk.kind ++ " list")
    pure (objects ns objs gvks)
  | objects ns [] gvks => pure (controllers ns gvks)
  | objects ns (obj :: objs) gvks => do
    notifyObject obj
    pure (objects ns objs gvks)
  | resourceGet obj => do
    let result ← check (get obj.gvk obj.key) ("failed to query resource " ++ obj.key.format)
    pure (resourceUpdate result)
  | resourceUpdate result => do
    check (update (bumped result)) "failed to notify host controller"
    pure (returned (.ok ()))
  | returned r => pure (returned r)

def step (pc : Pc) (cl : Cluster) : Pc × Cluster :=
  match exec pc.next cl with
  | (.ok pc', cl') => (pc', cl')
  | (.error e, cl') => (returned (.error e), cl')

/-- The code a call has left to run at `pc`. -/
def rest : Pc → ClientM Unit
  | systemList ns => notifySystemController ns
  | systemObjects objs => objs.forM notifySystemObject
  | controllers ns gvks => notifyControllers ns gvks
  | objects ns objs gvks => do
    objs.forM notifyObject
    notifyControllers ns gvks
  | resourceGet obj => notifyController (.resource obj)
  | resourceUpdate result => check (update (bumped result)) "failed to notify host controller"
  | returned r => liftExcept r

def copies : Pc → List Object
  | systemObjects objs => objs
  | objects _ objs _ => objs
  | resourceUpdate result => [result]
  | _ => []

/-- A bound on the steps a thread at `pc` takes before it returns, when no listing is longer
than `n`. -/
def bound (n : Nat) : Pc → Nat
  | systemList _ => n + 2
  | systemObjects objs => objs.length + 1
  | controllers _ gvks => gvks.length * (n + 2) + 1
  | objects _ objs gvks => objs.length + gvks.length * (n + 2) + 2
  | resourceGet _ => 2
  | resourceUpdate _ => 1
  | returned _ => 0

def run : Nat → Pc → Cluster → Pc × Cluster
  | 0, pc, cl => (pc, cl)
  | k + 1, pc, cl => run k (pc.step cl).1 (pc.step cl).2

/-! ### A step keeps the code left to run -/

lemma rest_eq_next_bind (pc : Pc) : pc.rest = pc.next >>= rest := by
  cases pc with
  | systemList ns => simp [rest, next, notifySystemController]
  | systemObjects objs => cases objs <;> simp [rest, next, List.forM, liftExcept]
  | controllers ns gvks =>
    cases gvks <;> simp [rest, next, notifyControllers, List.forM, liftExcept]
  | objects ns objs gvks => cases objs <;> simp [rest, next, List.forM]
  | resourceGet obj => simp [rest, next, notifyController, bumped]
  | resourceUpdate result => simp [rest, next, liftExcept]
  | returned r => simp [next]

lemma exec_rest_step (pc : Pc) (cl : Cluster) :
    exec pc.rest cl = exec (pc.step cl).1.rest (pc.step cl).2 := by
  rw [rest_eq_next_bind, exec_bind, step]
  rcases exec pc.next cl with ⟨_ | _, cl'⟩ <;> rfl

lemma exec_rest_returned (r : Except Exit Unit) (cl : Cluster) :
    exec (returned r).rest cl = (r, cl) := by
  cases r <;> rfl

/-! ### What a step does -/

/-- A step from `pc` against `cl` to `pc'` and `cl'`: what it does to the store, where the copies
held after it come from (the copies after the first, or objects of the store the step read, as the
API server or the informer's cache answered), and the progress it makes. -/
structure Steps (pc : Pc) (cl : Cluster) (pc' : Pc) (cl' : Cluster) : Prop where
  effect : Effect pc.copies cl cl'
  copies : pc'.copies.Sublist pc.copies.tail ∨
    (∃ l, l.Sublist cl.objects ∧ (pc'.copies = l ∨ pc'.copies = l.map cl.cached)) ∧
      cl'.objects = cl.objects
  bound : pc'.bound cl.objects.length < pc.bound cl.objects.length

lemma steps_returned {pc : Pc} {cl cl' : Cluster} (r : Except Exit Unit)
    (he : Effect pc.copies cl cl') (hb : 0 < pc.bound cl.objects.length) :
    Steps pc cl (returned r) cl' :=
  ⟨he, .inl (List.nil_sublist _), hb⟩

lemma length_listed_le (cl : Cluster) (gvk : GroupVersionKind) (ns : String) :
    (cl.listed gvk ns).length ≤ cl.objects.length :=
  List.length_filter_le _ _

lemma steps_systemList (ns : String) (cl : Cluster) :
    Steps (systemList ns) cl ((systemList ns).step cl).1 ((systemList ns).step cl).2 := by
  have := length_listed_le cl systemGVK ns
  simp only [step, next, exec_bind, exec_check_listCached]
  cases cl.refusal (.list systemGVK ns) <;> simp only [andThen_ok, andThen_error, exec_pure]
  · exact ⟨.read _ rfl, .inr ⟨⟨_, List.filter_sublist _, .inr rfl⟩,
      Cluster.objects_serve_of_updateOf rfl⟩, by simp [bound]; omega⟩
  · exact steps_returned _ (.read (.list systemGVK ns) rfl) (by simp [bound])

lemma steps_systemObjects (o : Object) (os : List Object) (cl : Cluster) :
    Steps (systemObjects (o :: os)) cl
      ((systemObjects (o :: os)).step cl).1 ((systemObjects (o :: os)).step cl).2 := by
  simp only [step, next, exec_bind]
  cases ha : o.annotations with
  | none =>
    rw [exec_notifySystemObject_of_none ha]
    exact steps_returned _ .skip (by simp [bound])
  | some a =>
    rw [notifySystemObject_eq (by simp [ha]), exec_check_update]
    have hw : Effect (systemObjects (o :: os)).copies cl (cl.serve (.update (bumped o))) :=
      .write rfl
    cases cl.refusal (.update (bumped o)) <;> simp only [andThen_ok, andThen_error, exec_pure]
    · exact ⟨hw, .inl (List.Sublist.refl os), by simp [bound]⟩
    · exact steps_returned _ hw (by simp [bound])

lemma steps_controllers (ns : String) (gvk : GroupVersionKind) (gvks : List GroupVersionKind)
    (cl : Cluster) :
    Steps (controllers ns (gvk :: gvks)) cl
      ((controllers ns (gvk :: gvks)).step cl).1 ((controllers ns (gvk :: gvks)).step cl).2 := by
  have := length_listed_le cl gvk ns
  simp only [step, next, exec_bind, exec_check_list]
  cases cl.refusal (.list gvk ns) <;> simp only [andThen_ok, andThen_error, exec_pure]
  · refine ⟨.read _ rfl, .inr ⟨⟨_, List.filter_sublist _, .inl rfl⟩,
      Cluster.objects_serve_of_updateOf rfl⟩, ?_⟩
    simp only [bound, List.length_cons, add_mul, one_mul]
    omega
  · exact steps_returned _ (.read (.list gvk ns) rfl) (by simp [bound])

lemma steps_objects (ns : String) (o : Object) (os : List Object) (gvks : List GroupVersionKind)
    (cl : Cluster) :
    Steps (objects ns (o :: os) gvks) cl
      ((objects ns (o :: os) gvks).step cl).1 ((objects ns (o :: os) gvks).step cl).2 := by
  have hc : (objects ns os gvks).copies.Sublist (objects ns (o :: os) gvks).copies.tail :=
    List.Sublist.refl os
  simp only [step, next, exec_bind, notifyObject_eq]
  split_ifs
  · rw [exec_check_update]
    have hw : Effect (objects ns (o :: os) gvks).copies cl (cl.serve (.update (bumped o))) :=
      .write rfl
    cases cl.refusal (.update (bumped o)) <;> simp only [andThen_ok, andThen_error, exec_pure]
    · exact ⟨hw, .inl hc, by simp [bound]⟩
    · exact steps_returned _ hw (by simp [bound])
  · simp only [exec_pure, andThen_ok]
    exact ⟨.skip, .inl hc, by simp [bound]⟩

lemma steps_resourceGet (obj : Object) (cl : Cluster) :
    Steps (resourceGet obj) cl ((resourceGet obj).step cl).1 ((resourceGet obj).step cl).2 := by
  simp only [step, next, exec_bind, exec_check_get]
  cases cl.refusal (.get obj.gvk obj.key) <;> cases hl : cl.lookup obj.gvk obj.key <;>
    simp only [andThen_ok, andThen_error, exec_pure]
  case none.some result =>
    exact ⟨.read _ rfl, .inr ⟨⟨[result], List.singleton_sublist.mpr (List.mem_of_find?_eq_some hl),
      .inr rfl⟩, Cluster.objects_serve_of_updateOf rfl⟩, by simp [bound]⟩
  all_goals exact steps_returned _ (.read (.get obj.gvk obj.key) rfl) (by simp [bound])

/-- **One step**: a thread that has not returned reads, writes one of the copies it holds,
bumped, or makes no request; it then holds copies it held or read, and it is nearer its end. -/
theorem steps_step (pc : Pc) (cl : Cluster) (h : ∀ r, pc ≠ returned r) :
    Steps pc cl (pc.step cl).1 (pc.step cl).2 := by
  cases pc with
  | systemList ns => exact steps_systemList ns cl
  | systemObjects objs =>
    cases objs with
    | nil => exact steps_returned _ .skip (by simp [bound])
    | cons o os => exact steps_systemObjects o os cl
  | controllers ns gvks =>
    cases gvks with
    | nil => exact steps_returned _ .skip (by simp [bound])
    | cons gvk gvks => exact steps_controllers ns gvk gvks cl
  | objects ns objs gvks =>
    cases objs with
    | nil =>
      exact ⟨.skip, .inl (List.nil_sublist _), by simp [step, next, bound]⟩
    | cons o os => exact steps_objects ns o os gvks cl
  | resourceGet obj => exact steps_resourceGet obj cl
  | resourceUpdate result =>
    simp only [step, next, exec_bind, exec_check_update]
    cases cl.refusal (.update (bumped result)) <;>
      simp only [andThen_ok, andThen_error, exec_pure] <;>
      exact steps_returned _ (.write rfl) (by simp [bound])
  | returned r => exact absurd rfl (h r)

lemma returned_or_steps (pc : Pc) (cl : Cluster) :
    (∃ r, pc = returned r) ∨ Steps pc cl (pc.step cl).1 (pc.step cl).2 :=
  (em _).imp_right fun hr => steps_step pc cl fun r e => hr ⟨r, e⟩

lemma step_returned (r : Except Exit Unit) (cl : Cluster) :
    (returned r).step cl = (returned r, cl) := rfl

lemma eq_returned_of_bound_eq_zero {pc : Pc} {n : Nat} (h : pc.bound n = 0) :
    ∃ r, pc = returned r := by
  cases pc <;> simp [bound] at h ⊢

lemma bound_step_le (pc : Pc) (cl : Cluster) :
    (pc.step cl).1.bound (pc.step cl).2.objects.length ≤ pc.bound cl.objects.length - 1 := by
  rcases returned_or_steps pc cl with ⟨r, rfl⟩ | hs
  · simp [step_returned, bound]
  · have := hs.bound
    rw [hs.effect.length_objects]
    omega

/-! ### Run alone, a thread runs the call -/

lemma run_of_bound_le {k : Nat} {pc : Pc} {cl : Cluster} (h : pc.bound cl.objects.length ≤ k) :
    run k pc cl = (returned (exec pc.rest cl).1, (exec pc.rest cl).2) := by
  induction k generalizing pc cl with
  | zero =>
    cases pc <;> simp [bound] at h
    rw [exec_rest_returned]; rfl
  | succ k ih =>
    rcases returned_or_steps pc cl with ⟨r, rfl⟩ | hs
    · rw [run, step_returned, ih (by simp [bound])]
    · have hb := hs.bound
      rw [run, ih (by rw [hs.effect.length_objects]; omega), ← exec_rest_step]

end Pc

/-- A call of the manager that makes requests to the store. -/
inductive Notification
  | notifySystemController (ns : String)
  | notifySystemDependencies (ns : String)
  | notifyResource (object : RuntimeObject)

namespace Notification

def code : Notification → ClientM Unit
  | notifySystemController ns => Notify.notifySystemController ns
  | notifySystemDependencies ns => Notify.notifySystemDependencies ns
  | notifyResource object => Notify.notifyResource object

def start : Notification → Pc
  | notifySystemController ns => .systemList ns
  | notifySystemDependencies ns => .controllers ns systemDependencies
  | notifyResource (.resource obj) => .resourceGet obj
  | notifyResource .other => .returned (.error (.error errNotObject))

lemma rest_start (n : Notification) : n.start.rest = n.code := by
  rcases n with _ | _ | ⟨_ | _⟩ <;> rfl

lemma copies_start (n : Notification) : n.start.copies = [] := by
  rcases n with _ | _ | ⟨_ | _⟩ <;> rfl

end Notification

/-- **A thread runs its call**: for every call and every store, the thread started at the call and
run alone returns, within its bound, what the call returns, and leaves the store the call
leaves. -/
theorem run_start (n : Notification) (cl : Cluster) :
    n.start.run (n.start.bound cl.objects.length) cl =
      (.returned (exec n.code cl).1, (exec n.code cl).2) := by
  rw [Pc.run_of_bound_le le_rfl, Notification.rest_start]

end DeploymentManager.Thread
