import DeploymentManager.Store

/-!
The notification cascade: the three paths that bump the `deployment-manager/notifications`
annotation of objects in the store, so that their controllers reconcile them again.

`notifyControllers` lists each type it is given in turn and bumps every listed object whose kind
its `switch` lets through; `NotifySystemDependencies` calls it on `systemDependencies`.
`NotifySystemController` does the same for the `System` objects of a namespace, and
`NotifyResource` reads one object and bumps it. The first lists into an `UnstructuredList`, which
the API server answers; the other two read typed objects, which the informer's cache answers.

Every path returns at the first request the store refuses. The run of `notifyControllers` is
therefore the run of `issue` on its plan, the list of requests it makes when none is refused.
-/

namespace DeploymentManager.Notify

open DeploymentManager.Strconv DeploymentManager.Counter DeploymentManager.Store

def notificationCountKey : String := "deployment-manager/notifications"

def index (m : Annotations) (key : String) : String := (m.lookup key).getD ""

/-- `m[key] = value` on a Go map, which panics when the map is nil. -/
def assign (m : Option Annotations) (key value : String) : ClientM Annotations :=
  match m with
  | none => throw (.panic "assignment to entry in nil map")
  | some m => pure (m.insert key value)

def systemGVK : GroupVersionKind := ⟨group, version, kindSystem⟩

/-- The body of the loop of `NotifySystemController`. The counter is written into the listed
object's own annotation map, with no test for a nil map. -/
def notifySystemObject (obj : Object) : ClientM Unit := do
  let count := getNextCount (index (obj.annotations.getD ∅) notificationCountKey)
  let annotations ← assign obj.annotations notificationCountKey count
  check (update { obj with annotations := some annotations }) "failed to notify system controller"

def notifySystemController (ns : String) : ClientM Unit := do
  let systems ← check (listCached systemGVK ns) "failed to query system list"
  systems.forM notifySystemObject

def systemDependencies : List GroupVersionKind :=
  [⟨group, version, kindHost⟩, ⟨group, version, kindPlatformNetwork⟩,
   ⟨group, version, kindDataNetwork⟩, ⟨group, version, kindPTPInstance⟩,
   ⟨group, version, kindPTPInterface⟩]

def notifiable (kind : String) : Bool :=
  kind ∈ [kindHost, kindHostProfile, kindPlatformNetwork, kindDataNetwork, kindPTPInstance,
    kindPTPInterface]

/-- The body of the object loop of `notifyControllers`. `GetAnnotations` gives a nil map for an
object without annotations, and the code starts from an empty one then. -/
def notifyObject (obj : Object) : ClientM Unit :=
  if notifiable obj.gvk.kind then
    let annotations := obj.annotations.getD ∅
    let count := getNextCount (index annotations notificationCountKey)
    let annotations := annotations.insert notificationCountKey count
    check (update { obj with annotations := some annotations })
      ("failed to notify " ++ obj.gvk.kind ++ " controller")
  else pure ()

def notifyControllers (ns : String) (gvkList : List GroupVersionKind) : ClientM Unit :=
  gvkList.forM fun gvk => do
    let objects ← check (list gvk ns) ("failed to query " ++ gvk.kind ++ " list")
    objects.forM notifyObject

/-- A `runtime.Object`: a resource, or a value without object metadata, such as a list. -/
inductive RuntimeObject
  | resource (obj : Object)
  | other

def errNotObject : Error := ⟨"object does not implement the Object interfaces"⟩

/-- `notifyController`. The accessor calls fail only on a value without object metadata, which
`ObjectKeyFromObject` has already rejected, so they are not modelled. -/
def notifyController : RuntimeObject → ClientM Unit
  | .other => throw (.error errNotObject)
  | .resource object => do
    let key := object.key
    let result ← check (get object.gvk key) ("failed to query resource " ++ key.format)
    let annotations := result.annotations.getD ∅
    let count := getNextCount (index annotations notificationCountKey)
    let annotations := annotations.insert notificationCountKey count
    check (update { result with annotations := some annotations }) "failed to notify host controller"

def notifySystemDependencies (ns : String) : ClientM Unit := notifyControllers ns systemDependencies

def notifyResource (object : RuntimeObject) : ClientM Unit := notifyController object

/-! ### What a bump writes -/

/-- The object with its counter bumped and every other annotation as it was. -/
def bumped (obj : Object) : Object :=
  let annotations := obj.annotations.getD ∅
  { obj with
    annotations := some (annotations.insert notificationCountKey
      (getNextCount (index annotations notificationCountKey))) }

@[simp] lemma bumped_ref (obj : Object) : (bumped obj).ref = obj.ref := rfl

@[simp] lemma bumped_gvk (obj : Object) : (bumped obj).gvk = obj.gvk := rfl

@[simp] lemma bumped_ns (obj : Object) : (bumped obj).ns = obj.ns := rfl

@[simp] lemma bumped_resourceVersion (obj : Object) :
    (bumped obj).resourceVersion = obj.resourceVersion := rfl

lemma notifyObject_eq (obj : Object) :
    notifyObject obj = if notifiable obj.gvk.kind then
      check (update (bumped obj)) ("failed to notify " ++ obj.gvk.kind ++ " controller")
    else pure () := rfl

/-- A `System` object with no annotations at all, and a store holding it that refuses nothing
and whose cache is in step. -/
def bareSystem : Object := ⟨systemGVK, "vim", "system", none, 0⟩

def bareCluster : Cluster := ⟨[bareSystem], List.nodup_singleton _, [], fun _ => none, fun _ _ => 0, []⟩

/-! ### `notifyControllers` issues its plan -/

/-- The requests `notifyControllers ns gvkList` makes against `cl` when the store refuses none. -/
def plan (cl : Cluster) (ns : String) (gvkList : List GroupVersionKind) : List Request :=
  gvkList.flatMap fun gvk =>
    .list gvk ns :: ((cl.listed gvk ns).filter (notifiable ·.gvk.kind)).map (.update ∘ bumped)

def failure : Request × Error → Exit
  | (.list gvk _, err) => .error (err.wrap ("failed to query " ++ gvk.kind ++ " list"))
  | (.update obj, err) => .error (err.wrap ("failed to notify " ++ obj.gvk.kind ++ " controller"))
  | (.get _ _, err) => .error err

lemma exec_forM_notifyObject (objs : List Object) (cl : Cluster) :
    exec (objs.forM notifyObject) cl =
      report failure (issue ((objs.filter (notifiable ·.gvk.kind)).map (.update ∘ bumped)) cl) := by
  induction objs generalizing cl with
  | nil => rfl
  | cons o os ih =>
    rw [List.forM, exec_bind, notifyObject_eq]
    by_cases hn : notifiable o.gvk.kind
    · rw [if_pos hn, exec_check_update]
      cases h : cl.refusal (.update (bumped o)) <;> simp [issue, h, ih, report, failure, hn]
    · rw [if_neg hn, exec_pure]
      simpa [hn] using ih cl

lemma notifyControllers_cons (ns : String) (gvk : GroupVersionKind) (gvks : List GroupVersionKind) :
    notifyControllers ns (gvk :: gvks) =
      (check (list gvk ns) ("failed to query " ++ gvk.kind ++ " list") >>=
        fun objects => objects.forM notifyObject) >>= fun _ => notifyControllers ns gvks := rfl

lemma plan_cons (cl : Cluster) (ns : String) (gvk : GroupVersionKind) (gvks : List GroupVersionKind) :
    plan cl ns (gvk :: gvks) = .list gvk ns ::
      (((cl.listed gvk ns).filter (notifiable ·.gvk.kind)).map (.update ∘ bumped) ++
        plan cl ns gvks) := rfl

lemma plan_congr {cl cl' : Cluster} {ns : String} {gvkList : List GroupVersionKind}
    (h : ∀ gvk ∈ gvkList, cl'.listed gvk ns = cl.listed gvk ns) :
    plan cl' ns gvkList = plan cl ns gvkList := by
  induction gvkList with
  | nil => rfl
  | cons gvk gvks ih =>
    rw [plan_cons, plan_cons, h gvk (List.mem_cons_self _ _),
      ih fun g hg => h g (List.mem_cons_of_mem _ hg)]

lemma listed_issue_bumped {gvk g : GroupVersionKind} (hg : gvk ≠ g) {objs : List Object}
    (h : ∀ o ∈ objs, o.gvk = gvk) {ns : String} {cl : Cluster} :
    (issue (objs.map (.update ∘ bumped)) cl).2.listed g ns = cl.listed g ns :=
  listed_issue ns (fun _ hr _ hobj => by
    obtain ⟨o, ho, rfl⟩ := List.mem_map.mp hr
    cases hobj
    rwa [bumped_gvk, h o ho]) cl

/-- **`notifyControllers` issues its plan**: on distinct types it makes the requests of its plan
in order, and returns at the first one the store refuses, with that request's wrapped error. -/
theorem exec_notifyControllers {gvkList : List GroupVersionKind} (hnd : gvkList.Nodup)
    (ns : String) (cl : Cluster) :
    exec (notifyControllers ns gvkList) cl = report failure (issue (plan cl ns gvkList) cl) := by
  induction gvkList generalizing cl with
  | nil => rfl
  | cons gvk gvks ih =>
    obtain ⟨hg, hnd⟩ := List.nodup_cons.mp hnd
    rw [notifyControllers_cons, exec_bind, exec_bind, exec_check_list, plan_cons]
    cases h : cl.refusal (.list gvk ns) with
    | some err => simp [issue, h, report, failure]
    | none =>
      simp only [issue, h, andThen_ok, exec_forM_notifyObject, issue_append]
      refine report_then fun _ => ?_
      have hk : ∀ o ∈ (cl.listed gvk ns).filter (notifiable ·.gvk.kind), o.gvk = gvk :=
        fun o ho => ((Cluster.mem_listed _).mp (List.mem_filter.mp ho).1).2.1
      have hl : ∀ g ∈ gvks, (issue (((cl.listed gvk ns).filter (notifiable ·.gvk.kind)).map
          (.update ∘ bumped)) (cl.serve (.list gvk ns))).2.listed g ns = cl.listed g ns :=
        fun g hmem => by
          rw [listed_issue_bumped (fun e : gvk = g => hg (e ▸ hmem)) hk,
            cl.listed_serve ns (by simp)]
      rw [ih hnd, plan_congr hl]

/-! ### The other two paths issue their plans too -/

def systemFailure : Request × Error → Exit
  | (.list _ _, err) => .error (err.wrap "failed to query system list")
  | (_, err) => .error (err.wrap "failed to notify system controller")

lemma notifySystemObject_eq {obj : Object} (h : obj.annotations.isSome) :
    notifySystemObject obj = check (update (bumped obj)) "failed to notify system controller" := by
  obtain ⟨a, ha⟩ := Option.isSome_iff_exists.mp h
  simp only [notifySystemObject, ha, assign, pure_bind, bumped, Option.getD_some]

lemma exec_notifySystemObject_of_none {obj : Object} (h : obj.annotations = none) (cl : Cluster) :
    exec (notifySystemObject obj) cl = (.error (.panic "assignment to entry in nil map"), cl) := by
  simp [notifySystemObject, h, assign]

def systemOutcome (objs : List Object) :
    Option (Request × Error) × Cluster → Except Exit Unit × Cluster
  | (some f, cl) => (.error (systemFailure f), cl)
  | (none, cl) =>
    (if objs.all (·.annotations.isSome) then .ok ()
     else .error (.panic "assignment to entry in nil map"), cl)

lemma exec_forM_notifySystemObject (objs : List Object) (cl : Cluster) :
    exec (objs.forM notifySystemObject) cl = systemOutcome objs
      (issue ((objs.takeWhile (·.annotations.isSome)).map (.update ∘ bumped)) cl) := by
  induction objs generalizing cl with
  | nil => rfl
  | cons o os ih =>
    rw [List.forM, exec_bind]
    cases ha : o.annotations with
    | none => rw [exec_notifySystemObject_of_none ha]; simp [ha, systemOutcome, issue]
    | some a =>
      rw [notifySystemObject_eq (by simp [ha]), exec_check_update]
      cases hr : cl.refusal (.update (bumped o)) with
      | some err => simp [ha, issue, hr, systemOutcome, systemFailure]
      | none => simpa [ha, issue, hr, systemOutcome] using ih (cl.serve _)

/-- **What `NotifySystemController` does**: it lists the `System` objects of the namespace, as the
informer's cache holds them, and updates them, bumped, in order up to the first one with a nil
annotation map; it returns at the first request the store refuses, and otherwise panics at that
object, or returns `nil` when there is none. -/
theorem exec_notifySystemController (cl : Cluster) (ns : String) :
    exec (notifySystemController ns) cl = systemOutcome (cl.listedCached systemGVK ns)
      (issue (.list systemGVK ns ::
        ((cl.listedCached systemGVK ns).takeWhile (·.annotations.isSome)).map (.update ∘ bumped))
        cl) := by
  rw [notifySystemController, exec_bind, exec_check_listCached]
  cases hr : cl.refusal (.list systemGVK ns) with
  | some err => simp [issue, hr, systemOutcome, systemFailure]
  | none =>
    simp only [andThen_ok, issue, hr]
    exact exec_forM_notifySystemObject _ _

/-- On a `System` object whose annotation map is nil, `NotifySystemController` panics once it has
listed it, before any `Update`, while `NotifyResource` bumps the same object with one `Update`. -/
theorem notifySystemController_panics_on_nil_annotations :
    (exec (notifySystemController "vim") bareCluster).1 =
        .error (.panic "assignment to entry in nil map") ∧
      (exec (notifySystemController "vim") bareCluster).2.trace =
        [(.list systemGVK "vim", none)] ∧
      (exec (notifyResource (.resource bareSystem)) bareCluster).2.trace =
        [(.get systemGVK bareSystem.key, none), (.update (bumped bareSystem), none)] ∧
      (bumped bareSystem).annotations = some ((∅ : Annotations).insert notificationCountKey "1") :=
  ⟨rfl, rfl, rfl, rfl⟩

def resourceFailure (key : ObjectKey) : Request × Error → Exit
  | (.get _ _, err) => .error (err.wrap ("failed to query resource " ++ key.format))
  | (_, err) => .error (err.wrap "failed to notify host controller")

/-- **`NotifyResource` writes back the copy it read, bumped**: it gets the object the store holds
under the resource's type and key, as the informer's cache holds it, and, when there is one,
updates that copy bumped, returning at the first request the store refuses. -/
theorem exec_notifyResource (obj : Object) (cl : Cluster) :
    exec (notifyResource (.resource obj)) cl = report (resourceFailure obj.key)
      (issue (.get obj.gvk obj.key ::
        ((cl.lookup obj.gvk obj.key).map (.update ∘ bumped ∘ cl.cached)).toList) cl) := by
  simp only [notifyResource, notifyController, exec_bind, exec_check_get]
  cases hl : cl.lookup obj.gvk obj.key with
  | none =>
    have hr : cl.refusal (.get obj.gvk obj.key) =
        some ((cl.fault cl.trace.length).getD (notFound obj.gvk.kindResource obj.key.name)) := by
      unfold Cluster.refusal
      cases cl.fault cl.trace.length <;> simp [hl]
    simp [issue, hr, hl, report, resourceFailure]
  | some o =>
    cases hr : cl.refusal (.get obj.gvk obj.key) with
    | some err => simp [issue, hr, report, resourceFailure]
    | none =>
      show exec (check (update (bumped (cl.cached o))) _) _ = _
      rw [exec_check_update]
      cases hu : (cl.serve (.get obj.gvk obj.key)).refusal (.update (bumped (cl.cached o))) <;>
        simp [issue, hr, hu, report, resourceFailure]

/-! ### `NotifySystemDependencies` is fail-fast -/

/-- The objects `NotifySystemDependencies(ns)` visits, in order: the types of
`systemDependencies` in order, the listed objects of each type in order. -/
def dependents (cl : Cluster) (ns : String) : List Object :=
  systemDependencies.flatMap (cl.listed · ns)

lemma mem_dependents {cl : Cluster} {ns : String} {o : Object} :
    o ∈ dependents cl ns ↔ o ∈ cl.objects ∧ o.gvk ∈ systemDependencies ∧ (ns = "" ∨ o.ns = ns) := by
  simp only [dependents, List.mem_flatMap, Cluster.mem_listed]
  constructor
  · rintro ⟨g, hg, ho, rfl, hns⟩
    exact ⟨ho, hg, hns⟩
  · rintro ⟨ho, hg, hns⟩
    exact ⟨o.gvk, hg, ho, rfl, hns⟩

lemma systemDependencies_nodup : systemDependencies.Nodup := by decide

lemma notifiable_systemDependencies : ∀ gvk ∈ systemDependencies, notifiable gvk.kind := by
  decide

lemma plan_updates {gvks : List GroupVersionKind} (h : ∀ gvk ∈ gvks, notifiable gvk.kind)
    (cl : Cluster) (ns : String) :
    (plan cl ns gvks).filterMap updateOf = (gvks.flatMap (cl.listed · ns)).map bumped := by
  induction gvks with
  | nil => rfl
  | cons g gs ih =>
    have hf : (cl.listed g ns).filter (notifiable ·.gvk.kind) = cl.listed g ns :=
      List.filter_eq_self.mpr fun o ho => by
        rw [((Cluster.mem_listed _).mp ho).2.1]; exact h g (List.mem_cons_self g gs)
    rw [plan_cons, List.filterMap_cons, List.filterMap_append, hf,
      ih fun g' hg' => h g' (List.mem_cons_of_mem g hg'), List.flatMap_cons, List.map_append,
      List.filterMap_map]
    exact congrArg (· ++ _) (List.filterMap_eq_map bumped ▸ rfl)

/-- What a run of `NotifySystemDependencies(ns)` against `cl` did, read off the result `r` and
the requests `t` it added to the trace: the requests of its plan in order, up to the first one the
store refused, which ends the run. -/
structure FailFast (cl : Cluster) (ns : String) (r : Except Exit Unit)
    (t : List (Request × Option Error)) : Prop where
  -- the requests made are the first of the plan, and all of it when the call returns `nil`
  issued : t.map Prod.fst <+: plan cl ns systemDependencies
  whole : r = .ok () → t.map Prod.fst = plan cl ns systemDependencies
  -- the updated objects are the first objects of the visiting order, each bumped, each once,
  -- all of the dependent types in `ns`
  updated_take : ∃ k, updated t = ((dependents cl ns).take k).map bumped
  updated_once : ((updated t).map Object.ref).Nodup
  updated_scope : ∀ o ∈ updated t, o.gvk ∈ systemDependencies ∧ o.ns = ns
  -- `nil` exactly when the store refused nothing; otherwise the last request is the refused one
  -- and the call returns its wrapped error
  ok_iff : r = .ok () ↔ ∀ x ∈ t, x.2 = none
  stops : r ≠ .ok () → ∃ t₀ req err, t = t₀ ++ [(req, some err)] ∧ (∀ x ∈ t₀, x.2 = none) ∧
    r = .error (failure (req, err))
  complete : r = .ok () → ∀ o ∈ cl.objects, o.gvk ∈ systemDependencies → o.ns = ns →
    bumped o ∈ updated t

lemma take_dependents_once (cl : Cluster) (ns : String) (k : Nat) :
    ((((dependents cl ns).take k).map bumped).map Object.ref).Nodup := by
  rw [List.map_map]
  exact ((nodup_flatMap_listed cl ns systemDependencies_nodup).sublist
    ((List.take_sublist k _).map _))

lemma take_dependents_scope {cl : Cluster} {ns : String} (hns : ns ≠ "") {k : Nat} {o : Object}
    (h : o ∈ ((dependents cl ns).take k).map bumped) : o.gvk ∈ systemDependencies ∧ o.ns = ns := by
  obtain ⟨d, hd, rfl⟩ := List.mem_map.mp h
  obtain ⟨-, hg, hn⟩ := mem_dependents.mp (List.mem_of_mem_take hd)
  exact ⟨hg, hn.resolve_left hns⟩

lemma failFast_accepted (cl : Cluster) {ns : String} (hns : ns ≠ "") :
    FailFast cl ns (.ok ()) ((plan cl ns systemDependencies).map (·, none)) := by
  have hfst : ((plan cl ns systemDependencies).map (·, (none : Option Error))).map Prod.fst =
      plan cl ns systemDependencies := by simp [Function.comp_def]
  have hu : updated ((plan cl ns systemDependencies).map (·, none)) =
      (dependents cl ns).map bumped := by
    rw [updated_accepted, plan_updates notifiable_systemDependencies cl ns]; rfl
  refine ⟨by rw [hfst], fun _ => hfst,
    ⟨(dependents cl ns).length, by rw [hu, List.take_length]⟩, ?_, fun o ho => ?_, by simp,
    fun h => absurd rfl h, fun _ o ho hg hn => ?_⟩
  · simpa [hu] using take_dependents_once cl ns (dependents cl ns).length
  · rw [hu, ← List.take_length (dependents cl ns)] at ho
    exact take_dependents_scope hns ho
  · rw [hu]
    exact List.mem_map_of_mem _ (mem_dependents.mpr ⟨ho, hg, .inr hn⟩)

lemma failFast_refused (cl : Cluster) {ns : String} (hns : ns ≠ "") {j k : Nat}
    (hk : ((plan cl ns systemDependencies).take j).filterMap updateOf =
      ((dependents cl ns).take k).map bumped) {req : Request}
    (hreq : ((plan cl ns systemDependencies).drop j).take 1 = [req]) (err : Error) :
    FailFast cl ns (.error (failure (req, err)))
      (((plan cl ns systemDependencies).take j).map (·, none) ++ [(req, some err)]) := by
  have hfst : (((plan cl ns systemDependencies).take j).map (·, none) ++ [(req, some err)]).map
      Prod.fst = (plan cl ns systemDependencies).take (j + 1) := by
    rw [List.take_add, hreq]; simp [Function.comp_def]
  have hu : updated (((plan cl ns systemDependencies).take j).map (·, none) ++
      [(req, some err)]) = ((dependents cl ns).take k).map bumped := by
    rw [updated_append, updated_refused, List.append_nil, updated_accepted, hk]
  refine ⟨by rw [hfst]; exact List.take_prefix _ _, (nomatch ·), ⟨k, hu⟩, hu ▸ take_dependents_once cl ns k,
    fun o ho => take_dependents_scope hns (hu ▸ ho),
    ⟨(nomatch ·), fun h => absurd (h (req, some err) (by simp)) (by simp)⟩,
    fun _ => ⟨_, req, err, rfl, fun x hx => ?_, rfl⟩, fun h => nomatch h⟩
  obtain ⟨r, -, rfl⟩ := List.mem_map.mp hx
  rfl

/-- **`NotifySystemDependencies` is fail-fast and bumps each object once**: for every store and
every pattern of refused requests, a call on a namespace makes the requests of its plan in order
up to the first one the store refuses and no further, so that it updates the first objects of the
dependent types in the namespace, each once; it returns `nil` exactly when it was refused nothing,
having then bumped them all. -/
theorem notifySystemDependencies_fail_fast (cl : Cluster) (ns : String) (hns : ns ≠ "") :
    ∃ t, (exec (notifySystemDependencies ns) cl).2.trace = cl.trace ++ t ∧
      FailFast cl ns (exec (notifySystemDependencies ns) cl).1 t := by
  rw [notifySystemDependencies, exec_notifyControllers systemDependencies_nodup ns cl]
  obtain ⟨j, -, htr, hfst, hall⟩ := issue_trace (plan cl ns systemDependencies) cl
  rcases hres : issue (plan cl ns systemDependencies) cl with ⟨_ | ⟨req, err⟩, cl'⟩ <;>
    simp only [hres, Option.map, Option.toList, List.append_nil, report] at htr hfst hall ⊢
  · -- the store refused nothing: the whole plan was issued
    rw [hall trivial, List.take_length] at htr
    exact ⟨_, htr, failFast_accepted cl hns⟩
  · -- the store refused `req`, the request after the first `j` of the plan
    obtain ⟨k, hk⟩ := exists_filterMap_take updateOf (plan cl ns systemDependencies) j
    rw [plan_updates notifiable_systemDependencies cl ns, ← List.map_take] at hk
    exact ⟨_, htr.trans (List.append_assoc _ _ _), failFast_refused cl hns hk hfst.symm err⟩

/-- A host and a platform network of namespace `vim`, and a store holding them that refuses its
third request. -/
def vimHost : Object := ⟨⟨group, version, kindHost⟩, "vim", "controller-0", none, 0⟩

def vimNetwork : Object := ⟨⟨group, version, kindPlatformNetwork⟩, "vim", "oam", none, 0⟩

def refusingCluster : Cluster :=
  ⟨[vimHost, vimNetwork], by decide, [], fun n => if n = 2 then some ⟨"connection refused"⟩ else none,
   fun _ _ => 0, []⟩

theorem notifySystemDependencies_fail_fast_refused :
    "vim" ≠ "" ∧
      (exec (notifySystemDependencies "vim") refusingCluster).2.trace =
        [(.list vimHost.gvk "vim", none), (.update (bumped vimHost), none),
         (.list vimNetwork.gvk "vim", some ⟨"connection refused"⟩)] ∧
      ∃ t, (exec (notifySystemDependencies "vim") refusingCluster).2.trace =
          refusingCluster.trace ++ t ∧
        FailFast refusingCluster "vim" (exec (notifySystemDependencies "vim") refusingCluster).1 t :=
  ⟨by decide, rfl, notifySystemDependencies_fail_fast refusingCluster "vim" (by decide)⟩

end DeploymentManager.Notify
