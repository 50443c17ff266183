import DeploymentManager.Thread
import DeploymentManager.Manager

/-!
Calls running at once against the store, and what they leave in it.

A thread writes back copies of objects it read some requests earlier: copies the informer's cache
answered with, which may already be behind the store, and other threads may have bumped the same
objects since. The store refuses an `Update` made from an outdated copy, so a copy that passes is
the object the store holds, and every accepted update is one bump of the present object. That is
what the invariant `Held` says of every copy a thread holds: it is the present object or older
than it.

From it, whatever the interleaving, however far behind the cache is and whatever else the store
refuses, the store stays its initial self with every object bumped exactly once per update of it
the store accepted (`Replays`): no bump is lost, none is counted twice, and nothing else changes.
A run of the manager, one call after the other, is one such interleaving. Every call also returns
within a bound of its own steps, whatever the others do.

Interleaving and the cache are what make copies outdated: a thread run alone against a cache in
step with the store holds copies of the objects as the store holds them (`Fresh`), so a run of the
manager then has no update refused but by a fault of the store (`NoConflict`).
-/

namespace DeploymentManager.Interleaving

open DeploymentManager.Store DeploymentManager.Notify DeploymentManager.Thread

/-! ### Copies and versions -/

def bump (o : Object) : Object := (bumped o).stored

@[simp] lemma bump_ref (o : Object) : (bump o).ref = o.ref := rfl

lemma bump_resourceVersion (o : Object) : (bump o).resourceVersion = o.resourceVersion + 1 := rfl

@[simp] lemma iterate_bump_ref (k : Nat) (o : Object) : (bump^[k] o).ref = o.ref := by
  induction k generalizing o with
  | zero => rfl
  | succ k ih => rw [Function.iterate_succ_apply, ih, bump_ref]

/-- `c` is a copy of the object the store holds under its type and key, read at the present
version or at an older one; a copy at the present version is the object itself. -/
def Held (cl : Cluster) (c : Object) : Prop :=
  ∃ cur ∈ cl.objects, cur.ref = c.ref ∧ c.resourceVersion ≤ cur.resourceVersion ∧
    (c.resourceVersion = cur.resourceVersion → c = cur)

lemma held_of_mem {cl : Cluster} {c : Object} (h : c ∈ cl.objects) : Held cl c :=
  ⟨c, h, rfl, le_rfl, fun _ => rfl⟩

lemma held_cached {cl : Cluster} {o : Object} (h : o ∈ cl.objects) : Held cl (cl.cached o) := by
  rcases cl.cached_cases o with he | ⟨href, hlt⟩
  · rw [he]; exact held_of_mem h
  · exact ⟨o, h, href.symm, hlt.le, fun e => absurd e hlt.ne⟩

def accepted (t : List (Request × Option Error)) (ref : GroupVersionKind × ObjectKey) : Nat :=
  ((updated t).map Object.ref).count ref

/-- The store `cl'` is `cl` after the requests `t` it logged, with each object bumped once per
update of it that `t` shows accepted. -/
def Replays (cl cl' : Cluster) : Prop :=
  ∃ t, cl'.trace = cl.trace ++ t ∧ cl'.objects = cl.objects.map fun o => bump^[accepted t o.ref] o

lemma Replays.refl (cl : Cluster) : Replays cl cl :=
  ⟨[], by simp, by simp [accepted, updated]⟩

lemma Replays.trans {cl₁ cl₂ cl₃ : Cluster} (h₁ : Replays cl₁ cl₂) (h₂ : Replays cl₂ cl₃) :
    Replays cl₁ cl₃ := by
  obtain ⟨t₁, ht₁, ho₁⟩ := h₁
  obtain ⟨t₂, ht₂, ho₂⟩ := h₂
  refine ⟨t₁ ++ t₂, by rw [ht₂, ht₁, List.append_assoc], ?_⟩
  rw [ho₂, ho₁, List.map_map]
  refine List.map_congr_left fun o _ => ?_
  simp only [Function.comp, iterate_bump_ref, accepted, updated_append, List.map_append,
    List.count_append, ← Function.iterate_add_apply, Nat.add_comm]

/-! ### One request -/

section Serve

variable {cl : Cluster}

lemma eq_of_ref_eq {a b : Object} (ha : a ∈ cl.objects) (hb : b ∈ cl.objects) (h : a.ref = b.ref) :
    a = b :=
  List.inj_on_of_nodup_map cl.unique ha hb h

lemma lookup_of_mem {cur : Object} (h : cur ∈ cl.objects) :
    cl.lookup cur.gvk cur.key = some cur := by
  cases hf : cl.lookup cur.gvk cur.key with
  | none => exact absurd (decide_eq_true rfl) (List.find?_eq_none.mp hf cur h)
  | some x =>
    have hx : x.ref = cur.ref := by simpa using List.find?_some hf
    rw [eq_of_ref_eq (List.mem_of_find?_eq_some hf) h hx]

lemma mem_of_refusal_eq_none {c : Object} (hc : Held cl c)
    (h : cl.refusal (.update (bumped c)) = none) : c ∈ cl.objects := by
  obtain ⟨cur, hcur, href, -, heq⟩ := hc
  obtain ⟨-, cur', hl, hv⟩ := (Cluster.refusal_update_eq_none _).mp h
  have hl' : cl.lookup (bumped c).gvk (bumped c).key = some cur := by
    rw [← lookup_of_mem hcur]
    exact congrArg (fun r : GroupVersionKind × ObjectKey => cl.lookup r.1 r.2) href.symm
  obtain rfl : cur' = cur := Option.some_injective _ (hl.symm.trans hl')
  exact heq hv.symm ▸ hcur

lemma objects_serve_refused {r : Request} {err : Error} (h : cl.refusal r = some err) :
    (cl.serve r).objects = cl.objects := by
  unfold Cluster.serve
  split
  · simp_all
  · rfl

lemma objects_serve_accepted {c : Object} (hc : c ∈ cl.objects)
    (h : cl.refusal (.update (bumped c)) = none) :
    (cl.serve (.update (bumped c))).objects =
      cl.objects.map fun o => if o.ref = c.ref then bump o else o := by
  simp only [Cluster.serve, h, Cluster.store, Cluster.log, bumped_ref]
  refine List.map_congr_left fun o ho => ?_
  split_ifs with hr
  · rw [eq_of_ref_eq ho hc hr]; rfl
  · rfl

lemma replays_serve_read {r : Request} (hr : updateOf r = none) : Replays cl (cl.serve r) :=
  ⟨[(r, cl.refusal r)], cl.serve_trace r, by
    rw [Cluster.objects_serve_of_updateOf hr]; simp [accepted, updated, hr]⟩

/-- **One write**: writing back a held copy, bumped, bumps the object once if the store accepts
it, and changes nothing otherwise. -/
lemma replays_serve_write {c : Object} (hc : Held cl c) :
    Replays cl (cl.serve (.update (bumped c))) := by
  refine ⟨_, cl.serve_trace _, ?_⟩
  cases h : cl.refusal (.update (bumped c)) with
  | some err => rw [objects_serve_refused h]; simp [accepted, updated]
  | none =>
    rw [objects_serve_accepted (mem_of_refusal_eq_none hc h) h]
    refine List.map_congr_left fun o _ => ?_
    by_cases hr : o.ref = c.ref <;> simp [accepted, updated, updateOf, hr, List.count_singleton,
      eq_comm]

lemma held_serve_read {r : Request} (hr : updateOf r = none) {c : Object} (h : Held cl c) :
    Held (cl.serve r) c := by
  unfold Held; rw [Cluster.objects_serve_of_updateOf hr]; exact h

/-- A write of a held copy keeps every held copy held: the object it bumps moves to a version
newer than every copy of it. -/
lemma held_serve_write {c : Object} (hc : Held cl c) {c' : Object} (h : Held cl c') :
    Held (cl.serve (.update (bumped c))) c' := by
  unfold Held
  cases hr : cl.refusal (.update (bumped c)) with
  | some err => rw [objects_serve_refused hr]; exact h
  | none =>
    have hmem := mem_of_refusal_eq_none hc hr
    obtain ⟨cur, hcur, href, hle, heq⟩ := h
    rw [objects_serve_accepted hmem hr]
    by_cases hcc : cur.ref = c.ref
    · obtain rfl := eq_of_ref_eq hcur hmem hcc
      refine ⟨bump cur, List.mem_map.mpr ⟨cur, hcur, if_pos rfl⟩, href, ?_, fun e => ?_⟩ <;>
        rw [bump_resourceVersion] at * <;> omega
    · exact ⟨cur, List.mem_map.mpr ⟨cur, hcur, if_neg hcc⟩, href, hle, heq⟩

end Serve

/-! ### One step -/

section Step

variable {held : List Object} {cl cl' : Cluster}

lemma replays_of_effect (h : Effect held cl cl') (hh : ∀ c ∈ held, Held cl c) : Replays cl cl' := by
  cases h with
  | skip => exact Replays.refl cl
  | read r hr => exact replays_serve_read hr
  | write hc => exact replays_serve_write (hh _ (List.mem_of_mem_head? hc))

lemma held_of_effect (h : Effect held cl cl') (hh : ∀ c ∈ held, Held cl c) {c : Object}
    (hc : Held cl c) : Held cl' c := by
  cases h with
  | skip => exact hc
  | read r hr => exact held_serve_read hr hc
  | write hw => exact held_serve_write (hh _ (List.mem_of_mem_head? hw)) hc

/-- A step of any thread, returned or not, has an effect, and takes its copies from those it held
and from what the store or its cache answered. -/
lemma step_effect (pc : Pc) (cl : Cluster) :
    Effect pc.copies cl (pc.step cl).2 ∧ ∀ c ∈ (pc.step cl).1.copies, c ∈ pc.copies ∨ Held cl c := by
  rcases Pc.returned_or_steps pc cl with ⟨r, rfl⟩ | hs
  · exact ⟨.skip, fun c hc => .inl hc⟩
  · refine ⟨hs.effect, fun c hc => ?_⟩
    rcases hs.copies with h | ⟨⟨l, hl, hcl | hcl⟩, -⟩
    · exact .inl (List.mem_of_mem_tail (h.subset hc))
    · exact .inr (held_of_mem (hl.subset (hcl ▸ hc)))
    · obtain ⟨o, ho, rfl⟩ := List.mem_map.mp (hcl ▸ hc)
      exact .inr (held_cached (hl.subset ho))

lemma held_of_copies (he : Effect held cl cl') (hh : ∀ c ∈ held, Held cl c) {copies : List Object}
    (hc : ∀ c ∈ copies, c ∈ held ∨ Held cl c) : ∀ c ∈ copies, Held cl' c := fun c hmem =>
  held_of_effect he hh ((hc c hmem).elim (hh c) id)

lemma held_step {pc : Pc} (h : ∀ c ∈ pc.copies, Held cl c) :
    ∀ c ∈ (pc.step cl).1.copies, Held (pc.step cl).2 c :=
  held_of_copies (step_effect pc cl).1 h (step_effect pc cl).2

lemma replays_run {pc : Pc} (h : ∀ c ∈ pc.copies, Held cl c) (k : Nat) :
    Replays cl (pc.run k cl).2 := by
  induction k generalizing pc cl with
  | zero => exact Replays.refl cl
  | succ k ih => exact (replays_of_effect (step_effect pc cl).1 h).trans (ih (held_step h))

lemma replays_exec (n : Notification) (cl : Cluster) : Replays cl (exec n.code cl).2 := by
  have h := congrArg Prod.snd (Pc.run_of_bound_le (le_refl (n.start.bound cl.objects.length)))
  rw [← Notification.rest_start, ← h]
  exact replays_run (by simp [Notification.copies_start]) _

end Step

/-! ### Threads -/

/-- Calls running at once against the store, each at its own point. -/
structure Threads where
  cluster : Cluster
  pcs : List Pc

namespace Threads

def start (cl : Cluster) (calls : List Notification) : Threads :=
  ⟨cl, calls.map Notification.start⟩

def step (s : Threads) (i : Nat) : Threads :=
  match s.pcs[i]? with
  | some pc => ⟨(pc.step s.cluster).2, s.pcs.set i (pc.step s.cluster).1⟩
  | none => s

def run (s : Threads) (sched : List Nat) : Threads := sched.foldl step s

def Inv (s : Threads) : Prop := ∀ pc ∈ s.pcs, ∀ c ∈ pc.copies, Held s.cluster c

lemma inv_start (cl : Cluster) (calls : List Notification) : (start cl calls).Inv := by
  simp [Inv, start, Notification.copies_start]

/-- **Step**: a step of any thread keeps every copy held, and the store replays it. -/
lemma inv_step {s : Threads} (hs : s.Inv) (i : Nat) :
    (s.step i).Inv ∧ Replays s.cluster (s.step i).cluster := by
  unfold step
  cases hi : s.pcs[i]? with
  | none => exact ⟨hs, Replays.refl _⟩
  | some pc =>
    have hpc := hs pc (List.getElem?_mem hi)
    have he := (step_effect pc s.cluster).1
    refine ⟨fun pc' hpc' c hc => ?_, replays_of_effect he hpc⟩
    rcases List.mem_or_eq_of_mem_set hpc' with hpc' | rfl
    · exact held_of_effect he hpc (hs pc' hpc' c hc)
    · exact held_step hpc c hc

/-- **Run**: over any schedule the invariant holds and the store replays the run. -/
lemma inv_run {s : Threads} (hs : s.Inv) (sched : List Nat) :
    (s.run sched).Inv ∧ Replays s.cluster (s.run sched).cluster := by
  induction sched generalizing s with
  | nil => exact ⟨hs, Replays.refl _⟩
  | cons i sched ih =>
    obtain ⟨hs', hr⟩ := inv_step hs i
    obtain ⟨hinv, hr'⟩ := ih hs'
    exact ⟨hinv, hr.trans hr'⟩

/-! ### Every call returns within its own steps -/

/-- How many more steps thread `i` may take before it returns. -/
def rank (s : Threads) (i : Nat) : Nat :=
  match s.pcs[i]? with
  | some pc => pc.bound s.cluster.objects.length
  | none => 0

lemma rank_start (cl : Cluster) {calls : List Notification} {i : Nat} {n : Notification}
    (hn : calls[i]? = some n) : rank (start cl calls) i = n.start.bound cl.objects.length := by
  simp [rank, start, hn]

lemma length_objects_step (s : Threads) (j : Nat) :
    (s.step j).cluster.objects.length = s.cluster.objects.length := by
  unfold step
  split
  · exact (step_effect _ _).1.length_objects
  · rfl

lemma getElem?_step_ne (s : Threads) {i j : Nat} (h : i ≠ j) : (s.step j).pcs[i]? = s.pcs[i]? := by
  unfold step
  split
  · exact List.getElem?_set_ne (Ne.symm h)
  · rfl

lemma rank_step (s : Threads) (i j : Nat) :
    rank (s.step j) i ≤ rank s i - if j = i then 1 else 0 := by
  split_ifs with hji
  · subst hji
    unfold rank step
    cases hi : s.pcs[j]? with
    | none => simp [hi]
    | some pc =>
      simp only [hi, List.getElem?_set_self (List.getElem?_eq_some_iff.mp hi).1]
      exact Pc.bound_step_le pc s.cluster
  · simp only [rank, getElem?_step_ne s (Ne.symm hji), length_objects_step, Nat.sub_zero, le_refl]

/-- **Run**: each step of thread `i` lowers its rank, and no step of another thread raises it. -/
lemma rank_run (s : Threads) (sched : List Nat) (i : Nat) :
    rank (s.run sched) i ≤ rank s i - sched.count i := by
  induction sched generalizing s with
  | nil => simp [run]
  | cons j sched ih =>
    have h := rank_step s i j
    have := ih (s.step j)
    simp only [run, List.foldl_cons, List.count_cons, beq_iff_eq] at this ⊢
    split_ifs at h ⊢ <;> omega

lemma length_pcs_run (s : Threads) (sched : List Nat) : (s.run sched).pcs.length = s.pcs.length := by
  induction sched generalizing s with
  | nil => rfl
  | cons j sched ih =>
    refine (ih (s.step j)).trans ?_
    unfold step
    split
    · exact List.length_set _ _ _
    · rfl

end Threads

/-- **Every call returns within its own steps, whatever the others do**: a call running at once
with any others against any store has returned, or panicked, once the schedule has given it as
many steps as its bound, however the steps of the other calls are interleaved with its own. -/
theorem start_run_returned (cl : Cluster) {calls : List Notification} {i : Nat}
    {n : Notification} (hn : calls[i]? = some n) {sched : List Nat}
    (hsched : n.start.bound cl.objects.length ≤ sched.count i) :
    ∃ r, ((Threads.start cl calls).run sched).pcs[i]? = some (.returned r) := by
  have hi : i < ((Threads.start cl calls).run sched).pcs.length := by
    rw [Threads.length_pcs_run]
    simpa [Threads.start] using (List.getElem?_eq_some_iff.mp hn).1
  obtain ⟨pc, hpc⟩ : ∃ pc, ((Threads.start cl calls).run sched).pcs[i]? = some pc :=
    ⟨_, List.getElem?_eq_getElem hi⟩
  have hr := Threads.rank_run (Threads.start cl calls) sched i
  rw [Threads.rank_start cl hn] at hr
  simp only [Threads.rank, hpc] at hr
  obtain ⟨r, rfl⟩ := @Pc.eq_returned_of_bound_eq_zero pc
    ((Threads.start cl calls).run sched).cluster.objects.length (by omega)
  exact ⟨r, hpc⟩

theorem start_run_returned_bare :
    [Notification.notifyResource (.resource bareSystem), .notifyResource (.resource bareSystem)][1]? =
        some (.notifyResource (.resource bareSystem)) ∧
      (Notification.notifyResource (.resource bareSystem)).start.bound bareCluster.objects.length ≤
        [0, 1, 0, 1].count 1 ∧
      ∃ r, ((Threads.start bareCluster [.notifyResource (.resource bareSystem),
        .notifyResource (.resource bareSystem)]).run [0, 1, 0, 1]).pcs[1]? = some (.returned r) :=
  ⟨rfl, by decide, start_run_returned bareCluster rfl (by decide)⟩

/-- **No bump is lost in any interleaving**: for any calls running at once against any store,
any interleaving of their requests, any delay of the informer's cache and any failures of the
store, the store ends holding the objects it held, each bumped exactly once per update of it that
it accepted, and nothing else changed. -/
theorem start_run_replays (cl : Cluster) (calls : List Notification) (sched : List Nat) :
    Replays cl ((Threads.start cl calls).run sched).cluster :=
  (Threads.inv_run (Threads.inv_start cl calls) sched).2

/-- Two `NotifyResource` calls on one object, interleaved: both read it, the first write is
accepted, and the second, made from the copy the first write outdated, is refused with a conflict
that the call returns; the object is bumped once. -/
example :
    let s := (Threads.start bareCluster [.notifyResource (.resource bareSystem),
      .notifyResource (.resource bareSystem)]).run [0, 1, 0, 1]
    s.pcs[1]? = some (.returned (.error (.error ((conflict systemGVK.resource "system").wrap
        "failed to notify host controller")))) ∧
      s.cluster.objects = [bump bareSystem] := ⟨rfl, rfl⟩

/-! ### The counters -/

open DeploymentManager.Counter

/-- The counter of an object, `Annotations[NotificationCountKey]`: the empty string when the
object has none. -/
def counter (o : Object) : String := index (o.annotations.getD ∅) notificationCountKey

lemma index_bump (o : Object) (key : String) :
    index ((bump o).annotations.getD ∅) key =
      if key = notificationCountKey then getNextCount (counter o)
      else index (o.annotations.getD ∅) key := by
  simp only [bump, bumped, Object.stored, Option.getD_some, index]
  split_ifs with h
  · subst h; rw [AList.lookup_insert]; rfl
  · rw [AList.lookup_insert_ne h]

lemma counter_iterate_bump (k : Nat) (o : Object) :
    counter (bump^[k] o) = getNextCount^[k] (counter o) := by
  induction k generalizing o with
  | zero => rfl
  | succ k ih =>
    rw [Function.iterate_succ_apply, ih, Function.iterate_succ_apply, counter, index_bump,
      if_pos rfl]

lemma index_iterate_bump {key : String} (h : key ≠ notificationCountKey) (k : Nat) (o : Object) :
    index ((bump^[k] o).annotations.getD ∅) key = index (o.annotations.getD ∅) key := by
  induction k generalizing o with
  | zero => rfl
  | succ k ih => rw [Function.iterate_succ_apply, ih, index_bump, if_neg h]

lemma counters_of_replays {cl cl' : Cluster} {t : List (Request × Option Error)}
    (h : cl'.objects = cl.objects.map fun o => bump^[accepted t o.ref] o) {o : Object}
    (ho : o ∈ cl.objects) :
    ∃ o' ∈ cl'.objects, o'.ref = o.ref ∧
      counter o' = getNextCount^[accepted t o.ref] (counter o) ∧
      (readCount (counter o) + accepted t o.ref < 2 ^ 63 →
        readCount (counter o') = readCount (counter o) + accepted t o.ref) ∧
      ∀ key, key ≠ notificationCountKey →
        index (o'.annotations.getD ∅) key = index (o.annotations.getD ∅) key := by
  refine ⟨_, h ▸ List.mem_map_of_mem _ ho, iterate_bump_ref _ o, counter_iterate_bump _ o,
    fun hlt => ?_, fun key hkey => index_iterate_bump hkey _ o⟩
  rw [counter_iterate_bump]
  exact readCount_iterate_getNextCount hlt

/-- **Every accepted bump counts, in any interleaving**: for any calls running at once against any
store, any interleaving and any failures of the store, every object the store held is still there
with its counter moved on by `getNextCount` once per update of it the store accepted, so that
below the largest `int` it reads its initial count plus that number, and with its other
annotations as they were. -/
theorem start_run_counters (cl : Cluster) (calls : List Notification) (sched : List Nat) :
    ∃ t, ((Threads.start cl calls).run sched).cluster.trace = cl.trace ++ t ∧
      ∀ o ∈ cl.objects, ∃ o' ∈ ((Threads.start cl calls).run sched).cluster.objects,
        o'.ref = o.ref ∧ counter o' = getNextCount^[accepted t o.ref] (counter o) ∧
        (readCount (counter o) + accepted t o.ref < 2 ^ 63 →
          readCount (counter o') = readCount (counter o) + accepted t o.ref) ∧
        ∀ key, key ≠ notificationCountKey →
          index (o'.annotations.getD ∅) key = index (o.annotations.getD ∅) key := by
  obtain ⟨t, ht, ho⟩ := (Threads.inv_run (Threads.inv_start cl calls) sched).2
  exact ⟨t, ht, fun o hmem => counters_of_replays ho hmem⟩

/-! ### Alone, and with the cache in step, the manager never meets a conflict -/

/-- The copies a thread holds are objects the store holds, in the store's order. -/
def Fresh (cl : Cluster) (pc : Pc) : Prop := pc.copies.Sublist cl.objects

/-- `cl'` is `cl` after requests `t` whose updates were each answered as the store's faults alone
answer them: none was refused as stale or as missing. -/
def NoConflict (cl cl' : Cluster) : Prop :=
  cl'.fault = cl.fault ∧ cl'.lag = cl.lag ∧ ∃ t, cl'.trace = cl.trace ++ t ∧
    ∀ k obj e, t[k]? = some (.update obj, e) → e = cl.fault (cl.trace.length + k)

lemma NoConflict.refl (cl : Cluster) : NoConflict cl cl :=
  ⟨rfl, rfl, [], by simp, by simp⟩

lemma NoConflict.trans {cl₁ cl₂ cl₃ : Cluster} (h₁ : NoConflict cl₁ cl₂) (h₂ : NoConflict cl₂ cl₃) :
    NoConflict cl₁ cl₃ := by
  obtain ⟨hf₁, hl₁, t₁, ht₁, hu₁⟩ := h₁
  obtain ⟨hf₂, hl₂, t₂, ht₂, hu₂⟩ := h₂
  refine ⟨hf₂.trans hf₁, hl₂.trans hl₁, t₁ ++ t₂, by rw [ht₂, ht₁, List.append_assoc],
    fun k obj e hk => ?_⟩
  rcases Nat.lt_or_ge k t₁.length with hlt | hge
  · rw [List.getElem?_append_left hlt] at hk
    exact hu₁ k obj e hk
  · rw [List.getElem?_append_right hge] at hk
    rw [hu₂ _ obj e hk, hf₁, ht₁, List.length_append]
    congr 1
    omega

lemma NoConflict.inSync {cl cl' : Cluster} (h : NoConflict cl cl') (hs : cl.InSync) : cl'.InSync :=
  fun n ref => h.2.1 ▸ hs n ref

section Fresh

variable {cl : Cluster}

lemma refusal_update_of_mem {c : Object} (hc : c ∈ cl.objects) :
    cl.refusal (.update (bumped c)) = cl.fault cl.trace.length := by
  have hl : cl.lookup c.gvk (bumped c).key = some c := lookup_of_mem hc
  unfold Cluster.refusal
  cases cl.fault cl.trace.length <;> simp [hl]

lemma sublist_objects_serve_write {c : Object} {rest : List Object}
    (h : (c :: rest).Sublist cl.objects) : rest.Sublist (cl.serve (.update (bumped c))).objects := by
  cases hr : cl.refusal (.update (bumped c)) with
  | some err => rw [objects_serve_refused hr]; exact (List.sublist_cons_self c rest).trans h
  | none =>
    rw [objects_serve_accepted (h.subset (List.mem_cons_self c rest)) hr]
    have hnd : ((c :: rest).map Object.ref).Nodup := cl.unique.sublist (h.map _)
    have hrest : rest.map (fun o => if o.ref = c.ref then bump o else o) = rest := by
      conv_rhs => rw [← List.map_id rest]
      exact List.map_congr_left fun o ho => if_neg fun (e : o.ref = c.ref) =>
        (List.nodup_cons.mp hnd).1 (e ▸ List.mem_map_of_mem Object.ref ho)
    exact hrest ▸ (((List.sublist_cons_self c rest).trans h).map _)

lemma noConflict_serve {r : Request}
    (h : ∀ obj, r = .update obj → cl.refusal r = cl.fault cl.trace.length) :
    NoConflict cl (cl.serve r) := by
  refine ⟨cl.serve_fault r, cl.serve_lag r, _, cl.serve_trace r, fun k obj e hk => ?_⟩
  cases k with
  | zero =>
    simp only [List.getElem?_cons_zero, Option.some.injEq, Prod.mk.injEq] at hk
    rw [← hk.2, Nat.add_zero]
    exact h obj hk.1
  | succ k => simp at hk

lemma noConflict_of_effect {held : List Object} {cl' : Cluster} (h : Effect held cl cl')
    (hf : held.Sublist cl.objects) : NoConflict cl cl' := by
  cases h with
  | skip => exact NoConflict.refl cl
  | read r hr => exact noConflict_serve fun obj e => by subst e; cases hr
  | write hc => exact noConflict_serve fun _ _ =>
      refusal_update_of_mem (hf.subset (List.mem_of_mem_head? hc))

lemma fresh_of_steps {pc pc' : Pc} {cl' : Cluster} (hsync : cl.InSync) (hs : Pc.Steps pc cl pc' cl')
    (h : Fresh cl pc) : Fresh cl' pc' := by
  rcases hs.copies with htail | ⟨⟨l, hl, hcl⟩, hobj⟩
  · -- the copies left are those after the first: the step wrote the first, or kept them all
    refine htail.trans ?_
    cases hs.effect with
    | skip => exact (List.tail_sublist _).trans h
    | read r hr => rw [Cluster.objects_serve_of_updateOf hr]; exact (List.tail_sublist _).trans h
    | write hc =>
      obtain ⟨rest, hcr⟩ := List.head?_eq_some_iff.mp hc
      unfold Fresh at h
      rw [hcr] at h ⊢
      exact sublist_objects_serve_write h
  · -- the copies were read, from the store or from a cache in step with it
    have hl' : pc'.copies = l := hcl.elim id fun e => by
      rw [e, show cl.cached = id from funext (Cluster.cached_of_inSync hsync), List.map_id]
    unfold Fresh; rw [hobj, hl']; exact hl

lemma fresh_step {pc : Pc} (hsync : cl.InSync) (h : Fresh cl pc) :
    NoConflict cl (pc.step cl).2 ∧ Fresh (pc.step cl).2 (pc.step cl).1 := by
  rcases Pc.returned_or_steps pc cl with ⟨r, rfl⟩ | hs
  · exact ⟨NoConflict.refl cl, h⟩
  · exact ⟨noConflict_of_effect hs.effect h, fresh_of_steps hsync hs h⟩

lemma noConflict_run {pc : Pc} (hsync : cl.InSync) (h : Fresh cl pc) (k : Nat) :
    NoConflict cl (pc.run k cl).2 := by
  induction k generalizing pc cl with
  | zero => exact NoConflict.refl cl
  | succ k ih =>
    obtain ⟨hnc, hf⟩ := fresh_step hsync h
    exact hnc.trans (ih (hnc.inSync hsync) hf)

lemma noConflict_exec (n : Notification) (cl : Cluster) (hsync : cl.InSync) :
    NoConflict cl (exec n.code cl).2 := by
  have h := congrArg Prod.snd (Pc.run_of_bound_le (le_refl (n.start.bound cl.objects.length)))
  rw [← Notification.rest_start, ← h]
  exact noConflict_run hsync (by simp [Fresh, Notification.copies_start]) _

end Fresh

/-- A cache one version behind the store: `NotifyResource` writes back the older copy it was
answered with, and the API server refuses it with a conflict. -/
example :
    (exec (notifyResource (.resource bareSystem))
        ⟨[bump bareSystem], List.nodup_singleton _, [bareSystem], fun _ => none, fun _ _ => 1, []⟩).1 =
      .error (.error ((conflict systemGVK.resource "system").wrap "failed to notify host controller")) :=
  rfl

/-! ### A run of the manager -/

open DeploymentManager.Manager

/-- What a call of the manager does to the store: nothing, or what one notification call does. -/
lemma cluster_step (m : PlatformManager) (c : Call) :
    (step m c).2.cluster = m.cluster ∨
      ∃ n : Notification, (step m c).2.cluster = (exec n.code m.cluster).2 := by
  cases c with
  | resetPlatformClient ns =>
    simp only [step, resetPlatformClient]
    split
    · exact .inr ⟨.notifySystemController ns, rfl⟩
    · exact .inl rfl
  | notifySystemDependencies ns => exact .inr ⟨.notifySystemDependencies ns, rfl⟩
  | notifyResource object => exact .inr ⟨.notifyResource object, rfl⟩
  | _ => exact .inl rfl

section Run

variable {R : Cluster → Cluster → Prop} (refl : ∀ cl, R cl cl)
  (trans : ∀ {cl₁ cl₂ cl₃}, R cl₁ cl₂ → R cl₂ cl₃ → R cl₁ cl₃)
  (hexec : ∀ (n : Notification) cl, R cl (exec n.code cl).2)
include refl trans hexec

/-- A preorder on stores that every notification call keeps holds over every run of the manager. -/
lemma run_of_exec (m : PlatformManager) (calls : List Call) : R m.cluster (run m calls).cluster := by
  induction calls generalizing m with
  | nil => exact refl _
  | cons c calls ih =>
    refine trans ?_ (ih _)
    rcases cluster_step m c with h | ⟨n, h⟩ <;> rw [h]
    exacts [refl _, hexec n _]

end Run

/-- **A run of the manager only bumps**: after any sequence of calls, whatever the store refuses,
it holds the objects it held, each bumped exactly once per update of it that it accepted. -/
theorem manager_run_replays (m : PlatformManager) (calls : List Call) :
    Replays m.cluster (run m calls).cluster :=
  run_of_exec Replays.refl Replays.trans replays_exec m calls

/-- **Only concurrency and the cache make the manager write a stale copy**: in any run of the
manager, one call after the other, against a store whose informer's cache answers every typed read
with the present object, every update the store refuses is refused by a fault of the store, never
because the object changed since it was read or is missing. -/
theorem manager_run_no_conflict (m : PlatformManager) (calls : List Call) (h : m.cluster.InSync) :
    ∃ t, (run m calls).cluster.trace = m.cluster.trace ++ t ∧
      ∀ k obj e, t[k]? = some (.update obj, e) → e = m.cluster.fault (m.cluster.trace.length + k) :=
  (@run_of_exec (fun cl cl' => cl.InSync → NoConflict cl cl') (fun cl _ => NoConflict.refl cl)
    (fun h₁ h₂ hs => (h₁ hs).trans (h₂ ((h₁ hs).inSync hs))) noConflict_exec m calls h).2.2

theorem manager_run_no_conflict_bare :
    (⟨bareCluster, ∅, .empty⟩ : PlatformManager).cluster.InSync ∧
      ∃ t, (run ⟨bareCluster, ∅, .empty⟩ [.notifyResource (.resource bareSystem),
          .notifyResource (.resource bareSystem)]).cluster.trace = bareCluster.trace ++ t ∧
        ∀ k obj e, t[k]? = some (.update obj, e) → e = bareCluster.fault (bareCluster.trace.length + k) :=
  ⟨fun _ _ => rfl, manager_run_no_conflict ⟨bareCluster, ∅, .empty⟩
    [.notifyResource (.resource bareSystem), .notifyResource (.resource bareSystem)] fun _ _ => rfl⟩

end DeploymentManager.Interleaving
