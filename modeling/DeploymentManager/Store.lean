import Mathlib.Data.List.AList
import DeploymentManager.Counter

/-!
The cluster object store, as the manager reaches it through `m.GetClient()`, and the monad the
notification code runs in.

The store holds objects with distinct types and keys. `Update` follows optimistic concurrency: it
carries the `resourceVersion` of the copy it was made from, the store refuses it with a conflict
when the object has been changed since, and it gives the object a new version when it accepts it.
Besides, the store may refuse any request: `fault n` is the error it answers the `n`-th request
with, if it refuses it, which covers a failed connection and every other failure of the API
server. Every request is logged in `trace` with the error it was answered with.

The manager's client sends a `List` into an `UnstructuredList` to the API server, but answers a
`List` or a `Get` of a typed object from the informer's cache, which follows the store with a
delay: it holds the present version of an object or one the store has since replaced. The store
keeps the versions it replaced in `past`, and `lag n` says how many versions behind the cache is
on each object when it answers the `n`-th request.

A call of the manager ends by returning `nil`, by returning an error, or by panicking; in all three
cases the store keeps what was done to it before.
-/

namespace DeploymentManager.Store

structure Error where
  message : String
  deriving DecidableEq, Repr

/-- `perrors.Wrap(err, msg)`, and `Wrapf` once the message is formatted. -/
def Error.wrap (err : Error) (msg : String) : Error := ⟨msg ++ ": " ++ err.message⟩

/-- How a call ends when it does not return `nil`: with a non-nil `error`, or in a panic. -/
inductive Exit
  | error (err : Error)
  | panic (msg : String)
  deriving DecidableEq, Repr

structure GroupVersionKind where
  group : String
  version : String
  kind : String
  deriving DecidableEq, Repr

structure ObjectKey where
  ns : String
  name : String
  deriving DecidableEq, Repr

/-- `%+v` of a `client.ObjectKey`, which prints through its `String` method. -/
def ObjectKey.format (key : ObjectKey) : String := key.ns ++ "/" ++ key.name

/-! ### The constants of package `v1`

They are declared outside src/ and modelled from the spec. The group, the version and the kinds
`PtpInstance` and `PtpInterface` are those of the CRDs under config/crds; the other kinds are named
the same way. -/

def group : String := "starlingx.windriver.com"
def version : String := "v1"
def kindSystem : String := "System"
def kindHost : String := "Host"
def kindHostProfile : String := "HostProfile"
def kindPlatformNetwork : String := "PlatformNetwork"
def kindDataNetwork : String := "DataNetwork"
def kindPTPInstance : String := "PtpInstance"
def kindPTPInterface : String := "PtpInterface"

/-- The resource the API server serves a type under, qualified by its group as
`GroupResource.String()` prints it: the kind in lower case and in the plural, as the CRDs under
config/crds name `ptpinstances` and `ptpinterfaces`. -/
def GroupVersionKind.resource (gvk : GroupVersionKind) : String :=
  String.mk (gvk.kind.toList.map Char.toLower) ++ "s." ++ gvk.group

example : (⟨group, version, kindPTPInterface⟩ : GroupVersionKind).resource =
    "ptpinterfaces.starlingx.windriver.com" := by decide

/-- The `GroupResource` controller-runtime's cache reader names in its errors, with the kind in
place of the resource. -/
def GroupVersionKind.kindResource (gvk : GroupVersionKind) : String := gvk.kind ++ "." ++ gvk.group

abbrev Annotations := AList (fun _ : String => String)

/-- A resource as the manager sees it. `annotations = none` is a nil map; `resourceVersion` is the
version of the object the copy was read at. -/
structure Object where
  gvk : GroupVersionKind
  ns : String
  name : String
  annotations : Option Annotations
  resourceVersion : Nat
  deriving DecidableEq

def Object.key (o : Object) : ObjectKey := ⟨o.ns, o.name⟩

def Object.ref (o : Object) : GroupVersionKind × ObjectKey := (o.gvk, o.key)

/-! ### The store -/

inductive Request
  | list (gvk : GroupVersionKind) (ns : String)
  | get (gvk : GroupVersionKind) (key : ObjectKey)
  | update (obj : Object)
  deriving DecidableEq

/-- The store: its objects, the versions of them it replaced (the latest first), the errors it
answers requests with, how far behind the informer's cache is, and the requests so far. -/
structure Cluster where
  objects : List Object
  unique : (objects.map Object.ref).Nodup
  past : List Object
  fault : Nat → Option Error
  lag : Nat → GroupVersionKind × ObjectKey → Nat
  trace : List (Request × Option Error)

/-- `errors.NewNotFound(resource, name)`. -/
def notFound (resource name : String) : Error := ⟨resource ++ " \"" ++ name ++ "\" not found"⟩

/-- `errors.NewConflict(resource, name, err)`, as the API server answers an `Update` made from a
copy older than the object it holds. -/
def conflict (resource name : String) : Error :=
  ⟨"Operation cannot be fulfilled on " ++ resource ++ " \"" ++ name ++
    "\": the object has been modified; please apply your changes to the latest version and try again"⟩

def Object.stored (obj : Object) : Object := { obj with resourceVersion := obj.resourceVersion + 1 }

@[simp] lemma Object.stored_ref (obj : Object) : obj.stored.ref = obj.ref := rfl

@[simp] lemma Object.stored_gvk (obj : Object) : obj.stored.gvk = obj.gvk := rfl

namespace Cluster

variable (cl : Cluster)

/-- What `List` finds for a type and `ListOptions.InNamespace(ns)`: the empty namespace selects
every namespace. -/
def listed (gvk : GroupVersionKind) (ns : String) : List Object :=
  cl.objects.filter fun o => o.gvk = gvk ∧ (ns = "" ∨ o.ns = ns)

@[simp] lemma mem_listed {gvk : GroupVersionKind} {ns : String} {o : Object} :
    o ∈ cl.listed gvk ns ↔ o ∈ cl.objects ∧ o.gvk = gvk ∧ (ns = "" ∨ o.ns = ns) := by
  simp [listed]

def lookup (gvk : GroupVersionKind) (key : ObjectKey) : Option Object :=
  cl.objects.find? fun o => o.ref = (gvk, key)

/-- The copy of `o` the informer's cache answers the next typed read with: `o` itself, or the
version `lag` steps back among the older versions of `o` the store replaced. -/
def cached (o : Object) : Object :=
  ((o :: cl.past.filter fun c => c.ref = o.ref ∧ c.resourceVersion < o.resourceVersion)[
    cl.lag cl.trace.length o.ref]?).getD o

def listedCached (gvk : GroupVersionKind) (ns : String) : List Object :=
  (cl.listed gvk ns).map cl.cached

def InSync : Prop := ∀ n ref, cl.lag n ref = 0

/-- The error the store answers `r` with, if it refuses it. A `Get` the cache misses is refused
with the error of the cache reader. -/
def refusal (r : Request) : Option Error :=
  match cl.fault cl.trace.length, r with
  | some err, _ => some err
  | none, .list _ _ => none
  | none, .get gvk key =>
    if (cl.lookup gvk key).isSome then none else some (notFound gvk.kindResource key.name)
  | none, .update obj =>
    match cl.lookup obj.gvk obj.key with
    | none => some (notFound obj.gvk.resource obj.name)
    | some cur =>
      if cur.resourceVersion = obj.resourceVersion then none
      else some (conflict obj.gvk.resource obj.name)

def log (r : Request) (answer : Option Error) : Cluster :=
  { cl with trace := cl.trace ++ [(r, answer)] }

lemma map_ref_replace (obj : Object) (l : List Object) :
    (l.map fun o => if o.ref = obj.ref then obj.stored else o).map Object.ref =
      l.map Object.ref := by
  simp only [List.map_map]
  exact List.map_congr_left fun o _ => by
    by_cases h : o.ref = obj.ref <;> simp [h]

/-- The store after it accepts `Update(obj)`: `obj`, under the next version, replaces the object
with its type and key, which joins the versions replaced. -/
def store (obj : Object) : Cluster :=
  { cl with
    objects := cl.objects.map fun o => if o.ref = obj.ref then obj.stored else o
    unique := by rw [map_ref_replace]; exact cl.unique
    past := cl.objects.filter (·.ref = obj.ref) ++ cl.past }

def serve (r : Request) : Cluster :=
  match r, cl.refusal r with
  | .update obj, none => (cl.log r none).store obj
  | r, answer => cl.log r answer

end Cluster

/-! ### The calls -/

abbrev ClientM := ExceptT Exit (StateM Cluster)

def exec (x : ClientM α) (cl : Cluster) : Except Exit α × Cluster := x.run.run cl

/-- `List(ctx, opts, list)` with `opts.InNamespace(ns)`, answered with `answer` of the store
unless it refuses it. -/
def listing (answer : Cluster → List Object) (gvk : GroupVersionKind) (ns : String) :
    StateM Cluster (Except Error (List Object)) := fun cl =>
  (match cl.refusal (.list gvk ns) with
    | some err => .error err
    | none => .ok (answer cl),
   cl.serve (.list gvk ns))

/-- `List` into an `UnstructuredList`, which the API server answers. -/
def list (gvk : GroupVersionKind) (ns : String) : StateM Cluster (Except Error (List Object)) :=
  listing (·.listed gvk ns) gvk ns

/-- `List` into a typed list, which the informer's cache answers. -/
def listCached (gvk : GroupVersionKind) (ns : String) :
    StateM Cluster (Except Error (List Object)) :=
  listing (·.listedCached gvk ns) gvk ns

/-- `Get(ctx, key, obj)` of a typed object, which the informer's cache answers. -/
def get (gvk : GroupVersionKind) (key : ObjectKey) : StateM Cluster (Except Error Object) :=
  fun cl =>
    (match cl.refusal (.get gvk key), cl.lookup gvk key with
      | none, some o => .ok (cl.cached o)
      | some err, _ => .error err
      | none, none => .error (notFound gvk.kindResource key.name),
     cl.serve (.get gvk key))

def update (obj : Object) : StateM Cluster (Except Error Unit) :=
  fun cl =>
    (match cl.refusal (.update obj) with
      | some err => .error err
      | none => .ok (),
     cl.serve (.update obj))

/-- A store call followed by `if err != nil { return perrors.Wrap(err, msg) }`. -/
def check (call : StateM Cluster (Except Error α)) (msg : String) : ClientM α :=
  ExceptT.mk ((·.mapError fun err => .error (err.wrap msg)) <$> call)

@[simp] lemma exec_pure (a : α) (cl : Cluster) : exec (pure a : ClientM α) cl = (.ok a, cl) := rfl

@[simp] lemma exec_throw (e : Exit) (cl : Cluster) :
    exec (throw e : ClientM α) cl = (.error e, cl) := rfl

def andThen (res : Except Exit α × Cluster) (k : α → Cluster → Except Exit β × Cluster) :
    Except Exit β × Cluster :=
  match res with
  | (.ok a, cl) => k a cl
  | (.error e, cl) => (.error e, cl)

@[simp] lemma andThen_ok (a : α) (cl : Cluster) (k : α → Cluster → Except Exit β × Cluster) :
    andThen (.ok a, cl) k = k a cl := rfl

@[simp] lemma andThen_error (e : Exit) (cl : Cluster) (k : α → Cluster → Except Exit β × Cluster) :
    andThen (.error e, cl) k = (.error e, cl) := rfl

lemma exec_bind (x : ClientM α) (f : α → ClientM β) (cl : Cluster) :
    exec (x >>= f) cl = andThen (exec x cl) fun a => exec (f a) := by
  simp only [exec, ExceptT.run_bind, StateT.run_bind]
  rcases x.run.run cl with ⟨_ | _, cl'⟩ <;> rfl

lemma exec_check (call : StateM Cluster (Except Error α)) (msg : String) (cl : Cluster) :
    exec (check call msg) cl =
      ((call.run cl).1.mapError fun err => .error (err.wrap msg), (call.run cl).2) := rfl

/-! ### Store lemmas -/

namespace Cluster

variable (cl : Cluster)

@[simp] lemma serve_trace (r : Request) : (cl.serve r).trace = cl.trace ++ [(r, cl.refusal r)] := by
  unfold serve
  split <;> simp_all [log, store]

@[simp] lemma serve_fault (r : Request) : (cl.serve r).fault = cl.fault := by
  unfold serve
  split <;> rfl

@[simp] lemma serve_lag (r : Request) : (cl.serve r).lag = cl.lag := by
  unfold serve
  split <;> rfl

lemma refusal_update_eq_none {obj : Object} :
    cl.refusal (.update obj) = none ↔ cl.fault cl.trace.length = none ∧
      ∃ cur, cl.lookup obj.gvk obj.key = some cur ∧ cur.resourceVersion = obj.resourceVersion := by
  unfold refusal
  cases cl.fault cl.trace.length <;> cases h : cl.lookup obj.gvk obj.key <;> simp [h]

@[simp] lemma length_objects_serve (r : Request) :
    (cl.serve r).objects.length = cl.objects.length := by
  unfold serve
  split <;> simp [log, store]

lemma cached_cases (o : Object) :
    cl.cached o = o ∨ (cl.cached o).ref = o.ref ∧ (cl.cached o).resourceVersion < o.resourceVersion := by
  unfold cached
  cases h : (o :: cl.past.filter fun c => c.ref = o.ref ∧ c.resourceVersion < o.resourceVersion)[
      cl.lag cl.trace.length o.ref]? with
  | none => exact .inl rfl
  | some c =>
    rcases List.mem_cons.mp (List.getElem?_mem h) with rfl | hc
    · exact .inl rfl
    · exact .inr (by simpa using (List.mem_filter.mp hc).2)

lemma cached_of_inSync {cl : Cluster} (h : cl.InSync) (o : Object) : cl.cached o = o := by
  unfold cached
  rw [h, List.getElem?_cons_zero, Option.getD_some]

@[simp] lemma length_listedCached (gvk : GroupVersionKind) (ns : String) :
    (cl.listedCached gvk ns).length = (cl.listed gvk ns).length :=
  List.length_map _ _

lemma filter_replace {p : Object → Prop} [DecidablePred p] {obj : Object} (hobj : ¬ p obj.stored)
    (hp : ∀ o, p o → o.ref ≠ obj.ref) (l : List Object) :
    (l.map fun o => if o.ref = obj.ref then obj.stored else o).filter p = l.filter p := by
  induction l with
  | nil => rfl
  | cons o l ih =>
    by_cases ho : p o
    · simp [ho, hp o ho, ih]
    · by_cases hr : o.ref = obj.ref <;> simp [ho, hobj, hr, ih]

lemma listed_serve {r : Request} {gvk : GroupVersionKind} (ns : String)
    (hr : ∀ obj, r = .update obj → obj.gvk ≠ gvk) : (cl.serve r).listed gvk ns = cl.listed gvk ns := by
  unfold serve
  split
  · rename_i obj _
    have hg := hr obj rfl
    exact filter_replace (by simp [hg]) (fun o ho h => hg (by
      have := congrArg Prod.fst h; simp only [Object.ref] at this; rw [← this, ho.1])) _
  · rfl

end Cluster

/-- Issue `rs` in order until the store refuses one: the refused request with its error, if
any, and the store after. -/
def issue : List Request → Cluster → Option (Request × Error) × Cluster
  | [], cl => (none, cl)
  | r :: rs, cl =>
    match cl.refusal r with
    | some err => (some (r, err), cl.serve r)
    | none => issue rs (cl.serve r)

def issueAfter (res : Option (Request × Error) × Cluster) (rs : List Request) :
    Option (Request × Error) × Cluster :=
  match res with
  | (none, cl) => issue rs cl
  | (some f, cl) => (some f, cl)

lemma issue_append (rs₁ rs₂ : List Request) (cl : Cluster) :
    issue (rs₁ ++ rs₂) cl = issueAfter (issue rs₁ cl) rs₂ := by
  induction rs₁ generalizing cl with
  | nil => rfl
  | cons r rs ih =>
    simp only [List.cons_append, issue]
    split <;> simp [ih, issueAfter]

/-- **Fail-fast**: `issue` logs the first `j` requests as accepted, then the refused request, if
there is one, which is the next request; it refuses none only when it has issued them all. -/
theorem issue_trace (rs : List Request) (cl : Cluster) :
    ∃ j ≤ rs.length, (issue rs cl).2.trace = cl.trace ++ (rs.take j).map (·, none) ++
        ((issue rs cl).1.map fun f => (f.1, some f.2)).toList ∧
      ((issue rs cl).1.map Prod.fst).toList = (rs.drop j).take 1 ∧
      ((issue rs cl).1 = none → j = rs.length) := by
  induction rs generalizing cl with
  | nil => exact ⟨0, le_rfl, by simp [issue], rfl, fun _ => rfl⟩
  | cons r rs ih =>
    simp only [issue]
    split
    · rename_i err h
      exact ⟨0, by simp, by simp [h], rfl, by simp⟩
    · rename_i h
      obtain ⟨j, hj, htr, hfst, hall⟩ := ih (cl.serve r)
      exact ⟨j + 1, by simpa using hj, by simp [htr, h], by simpa using hfst,
        fun h' => by simp [hall h']⟩

lemma listed_issue {rs : List Request} {gvk : GroupVersionKind} (ns : String)
    (hrs : ∀ r ∈ rs, ∀ obj, r = .update obj → obj.gvk ≠ gvk) (cl : Cluster) :
    (issue rs cl).2.listed gvk ns = cl.listed gvk ns := by
  induction rs generalizing cl with
  | nil => rfl
  | cons r rs ih =>
    have hr := cl.listed_serve ns (hrs r (List.mem_cons_self r rs))
    simp only [issue]
    split
    · exact hr
    · rw [ih (fun r' h => hrs r' (List.mem_cons_of_mem r h)), hr]

/-- What a call that issues requests returns: `nil`, or the error `failure` makes of the first
refused request. -/
def report (failure : Request × Error → Exit) :
    Option (Request × Error) × Cluster → Except Exit Unit × Cluster
  | (none, cl) => (.ok (), cl)
  | (some f, cl) => (.error (failure f), cl)

lemma report_then {failure : Request × Error → Exit} {res : Option (Request × Error) × Cluster}
    {rs : List Request} {k : ClientM Unit}
    (hk : res.1 = none → exec k res.2 = report failure (issue rs res.2)) :
    andThen (report failure res) (fun _ => exec k) = report failure (issueAfter res rs) := by
  rcases res with ⟨_ | f, cl'⟩
  · exact hk rfl
  · rfl

/-! ### Reading a trace -/

def updateOf : Request → Option Object
  | .update obj => some obj
  | _ => none

lemma Cluster.objects_serve_of_updateOf {cl : Cluster} {r : Request} (hr : updateOf r = none) :
    (cl.serve r).objects = cl.objects := by
  unfold Cluster.serve
  split
  · cases hr
  · rfl

/-- The objects of the updates the store accepted, in a stretch of trace. -/
def updated (t : List (Request × Option Error)) : List Object :=
  t.filterMap fun x => if x.2 = none then updateOf x.1 else none

@[simp] lemma updated_append (t₁ t₂ : List (Request × Option Error)) :
    updated (t₁ ++ t₂) = updated t₁ ++ updated t₂ := List.filterMap_append _ _ _

@[simp] lemma updated_refused (r : Request) (err : Error) : updated [(r, some err)] = [] := rfl

lemma updated_accepted (rs : List Request) : updated (rs.map (·, none)) = rs.filterMap updateOf := by
  induction rs with
  | nil => rfl
  | cons r rs ih => simp [updated, List.filterMap_cons, ← ih]

lemma exists_filterMap_take (f : α → Option β) (l : List α) (j : Nat) :
    ∃ k, (l.take j).filterMap f = (l.filterMap f).take k := by
  induction l generalizing j with
  | nil => exact ⟨0, by simp⟩
  | cons a l ih =>
    cases j with
    | zero => exact ⟨0, by simp⟩
    | succ j =>
      obtain ⟨k, hk⟩ := ih j
      cases h : f a with
      | none => exact ⟨k, by simp [List.filterMap_cons, h, hk]⟩
      | some b => exact ⟨k + 1, by simp [List.filterMap_cons, h, hk]⟩

lemma nodup_flatMap_listed (cl : Cluster) (ns : String) {gvks : List GroupVersionKind}
    (hnd : gvks.Nodup) : ((gvks.flatMap (cl.listed · ns)).map Object.ref).Nodup := by
  induction gvks with
  | nil => simp
  | cons g gs ih =>
    obtain ⟨hg, hnd⟩ := List.nodup_cons.mp hnd
    rw [List.flatMap_cons, List.map_append, List.nodup_append]
    refine ⟨cl.unique.sublist ((List.filter_sublist _).map _), ih hnd, fun x hx hx' => ?_⟩
    simp only [List.mem_map, List.mem_flatMap, Cluster.mem_listed] at hx hx'
    obtain ⟨o, ⟨-, rfl, -⟩, rfl⟩ := hx
    obtain ⟨o', ⟨g', hg', -, hog', -⟩, he⟩ := hx'
    exact hg (by rw [show o.gvk = o'.gvk from (congrArg Prod.fst he).symm, hog']; exact hg')

/-! ### The calls, one request each -/

lemma exec_check_listing (answer : Cluster → List Object) (gvk : GroupVersionKind)
    (ns msg : String) (cl : Cluster) :
    exec (check (listing answer gvk ns) msg) cl =
      (match cl.refusal (.list gvk ns) with
        | some err => .error (.error (err.wrap msg))
        | none => .ok (answer cl),
       cl.serve (.list gvk ns)) := by
  simp only [exec_check, listing, StateT.run]
  cases cl.refusal (.list gvk ns) <;> rfl

lemma exec_check_list (gvk : GroupVersionKind) (ns msg : String) (cl : Cluster) :
    exec (check (list gvk ns) msg) cl =
      (match cl.refusal (.list gvk ns) with
        | some err => .error (.error (err.wrap msg))
        | none => .ok (cl.listed gvk ns),
       cl.serve (.list gvk ns)) :=
  exec_check_listing _ gvk ns msg cl

lemma exec_check_listCached (gvk : GroupVersionKind) (ns msg : String) (cl : Cluster) :
    exec (check (listCached gvk ns) msg) cl =
      (match cl.refusal (.list gvk ns) with
        | some err => .error (.error (err.wrap msg))
        | none => .ok (cl.listedCached gvk ns),
       cl.serve (.list gvk ns)) :=
  exec_check_listing _ gvk ns msg cl

lemma exec_check_get (gvk : GroupVersionKind) (key : ObjectKey) (msg : String) (cl : Cluster) :
    exec (check (get gvk key) msg) cl =
      (match cl.refusal (.get gvk key), cl.lookup gvk key with
        | none, some o => .ok (cl.cached o)
        | some err, _ => .error (.error (err.wrap msg))
        | none, none => .error (.error ((notFound gvk.kindResource key.name).wrap msg)),
       cl.serve (.get gvk key)) := by
  simp only [exec_check, get, StateT.run]
  rcases cl.refusal (.get gvk key) with _ | _ <;> rcases cl.lookup gvk key with _ | _ <;> rfl

lemma exec_check_update (obj : Object) (msg : String) (cl : Cluster) :
    exec (check (update obj) msg) cl =
      (match cl.refusal (.update obj) with
        | some err => .error (.error (err.wrap msg))
        | none => .ok (),
       cl.serve (.update obj)) := by
  simp only [exec_check, update, StateT.run]
  cases cl.refusal (.update obj) <;> rfl

end DeploymentManager.Store
