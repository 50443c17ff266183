import Mathlib.Data.List.AList

/-!
The `SystemNamespace` registry: per namespace, the platform client, the readiness flag and the
system type, in the map `m.systems`.

Each entry of the Go map is its own allocation, created on the first write to any of its fields
and then changed in place, so a map of values models it. A getter returns the zero value of its
field when the namespace has no entry; since an entry is created from the zero record, a missing
entry reads everywhere as the zero record. Read that way the registry is a total function from
namespaces to records, and every setter changes one field of one record of it.
-/

namespace DeploymentManager.Registry

/-- `*gophercloud.ServiceClient`: a handle to a platform connection, told apart by identity. -/
structure ServiceClient where
  id : Nat
  deriving DecidableEq, Repr

abbrev SystemType := String

def systemTypeAllInOne : SystemType := "all-in-one"

def systemTypeStandard : SystemType := "standard"

/-- `SystemNamespace`; `client = none` is a nil pointer. -/
structure SystemNamespace where
  client : Option ServiceClient
  ready : Bool
  systemType : SystemType
  deriving DecidableEq, Repr

def SystemNamespace.zero : SystemNamespace := ⟨none, false, ""⟩

/-- `m.systems`, a `map[string]*SystemNamespace`. -/
abbrev Systems := AList (fun _ : String => SystemNamespace)

/-- The getters: a field of the entry of `ns`, or the field's zero value when there is none. -/
def field (f : SystemNamespace → α) (zero : α) (systems : Systems) (ns : String) : α :=
  match systems.lookup ns with
  | some obj => f obj
  | none => zero

def getPlatformClient (systems : Systems) (ns : String) : Option ServiceClient :=
  field SystemNamespace.client none systems ns

def getSystemReady (systems : Systems) (ns : String) : Bool :=
  field SystemNamespace.ready false systems ns

def getSystemType (systems : Systems) (ns : String) : SystemType :=
  field SystemNamespace.systemType "" systems ns

def setSystemReady (systems : Systems) (ns : String) (value : Bool) : Systems :=
  match systems.lookup ns with
  | none => systems.insert ns { SystemNamespace.zero with ready := value }
  | some obj => systems.insert ns { obj with ready := value }

/-- The map part of `SetSystemType`, which leaves an entry alone when it already holds the
type, so that only a change is logged. -/
def setSystemType (systems : Systems) (ns : String) (value : SystemType) : Systems :=
  match systems.lookup ns with
  | none => systems.insert ns { SystemNamespace.zero with systemType := value }
  | some obj => if obj.systemType ≠ value then systems.insert ns { obj with systemType := value }
    else systems

/-- The map part of `ResetPlatformClient`: the entry after the client is cleared, and whether the
system controller is to be notified, which is when a client was there to clear. -/
def resetClient (systems : Systems) (ns : String) : Systems × Bool :=
  match systems.lookup ns with
  | some obj => if obj.client = none then (systems, false)
    else (systems.insert ns { obj with client := none }, true)
  | none => (systems, false)

/-! ### The registry as a total function -/

/-- The record a namespace reads as: its entry, or the zero record. -/
def record (systems : Systems) (ns : String) : SystemNamespace :=
  (systems.lookup ns).getD SystemNamespace.zero

lemma field_eq (f : SystemNamespace → α) (systems : Systems) (ns : String) :
    field f (f SystemNamespace.zero) systems ns = f (record systems ns) := by
  unfold field record
  cases systems.lookup ns <;> rfl

lemma getPlatformClient_eq (systems : Systems) (ns : String) :
    getPlatformClient systems ns = (record systems ns).client :=
  field_eq SystemNamespace.client systems ns

lemma getSystemReady_eq (systems : Systems) (ns : String) :
    getSystemReady systems ns = (record systems ns).ready :=
  field_eq SystemNamespace.ready systems ns

lemma getSystemType_eq (systems : Systems) (ns : String) :
    getSystemType systems ns = (record systems ns).systemType :=
  field_eq SystemNamespace.systemType systems ns

lemma record_insert (systems : Systems) (ns n : String) (r : SystemNamespace) :
    record (systems.insert ns r) n = if n = ns then r else record systems n := by
  unfold record
  split_ifs with h
  · rw [h, AList.lookup_insert]; rfl
  · rw [AList.lookup_insert_ne h]

/-- Writing back `f` of what a namespace reads as changes that namespace by `f` and nothing
else. -/
lemma record_insert_record (systems : Systems) (ns n : String)
    (f : SystemNamespace → SystemNamespace) :
    record (systems.insert ns (f (record systems ns))) n =
      if n = ns then f (record systems n) else record systems n := by
  rw [record_insert]
  split_ifs with hn
  · rw [hn]
  · rfl

lemma record_insert_self (systems : Systems) (ns n : String) :
    record (systems.insert ns (record systems ns)) n = record systems n :=
  (record_insert_record systems ns n id).trans (ite_self _)

lemma record_of_lookup {systems : Systems} {ns : String} {obj : SystemNamespace}
    (h : systems.lookup ns = some obj) : record systems ns = obj := by
  rw [record, h]; rfl

lemma record_of_lookup_none {systems : Systems} {ns : String} (h : systems.lookup ns = none) :
    record systems ns = .zero := by
  rw [record, h]; rfl

/-- `SetSystemReady` changes the readiness of one namespace and nothing else. -/
theorem record_setSystemReady (systems : Systems) (ns n : String) (value : Bool) :
    record (setSystemReady systems ns value) n =
      if n = ns then { record systems n with ready := value } else record systems n := by
  have hw : setSystemReady systems ns value =
      systems.insert ns { record systems ns with ready := value } := by
    unfold setSystemReady record
    cases systems.lookup ns <;> rfl
  rw [hw]
  exact record_insert_record systems ns n fun r => { r with ready := value }

/-- `SetSystemType` changes the type of one namespace and nothing else. -/
theorem record_setSystemType (systems : Systems) (ns n : String) (value : SystemType) :
    record (setSystemType systems ns value) n =
      if n = ns then { record systems n with systemType := value } else record systems n := by
  rw [← record_insert_record systems ns n fun r => { r with systemType := value }]
  cases h : systems.lookup ns with
  | none => simp only [setSystemType, h, record_of_lookup_none h]
  | some obj =>
    by_cases hv : obj.systemType = value
    · -- the entry already holds the type: the map is left alone
      simp only [setSystemType, h, hv, ne_eq, not_true_eq_false, if_false]
      rw [← hv, ← record_of_lookup h]
      exact (record_insert_self systems ns n).symm
    · simp only [setSystemType, h, hv, record_of_lookup h, ne_eq, not_false_eq_true, if_true]

/-- Resetting the client changes the client of one namespace and nothing else. -/
theorem record_resetClient (systems : Systems) (ns n : String) :
    record (resetClient systems ns).1 n =
      if n = ns then { record systems n with client := none } else record systems n := by
  rw [← record_insert_record systems ns n fun r => { r with client := none }]
  cases h : systems.lookup ns with
  | none =>
    -- no entry: the map is left alone, and the zero record has no client
    simp only [resetClient, h]
    exact (record_insert_self systems ns n).symm.trans (by rw [record_of_lookup_none h]; rfl)
  | some obj =>
    by_cases hc : obj.client = none
    · -- no client to clear: the map is left alone
      simp only [resetClient, h, hc, if_true]
      rw [← hc, ← record_of_lookup h]
      exact (record_insert_self systems ns n).symm
    · simp only [resetClient, h, hc, record_of_lookup h, if_false]

lemma resetClient_of_not_notify {systems : Systems} {ns : String}
    (h : (resetClient systems ns).2 = false) : (resetClient systems ns).1 = systems := by
  unfold resetClient at h ⊢
  split at h
  · split_ifs at h ⊢
    rfl
  · rfl

/-- The system controller is notified exactly when a client was there to clear. -/
lemma resetClient_notify (systems : Systems) (ns : String) :
    (resetClient systems ns).2 = (getPlatformClient systems ns).isSome := by
  unfold resetClient getPlatformClient field
  cases h : systems.lookup ns with
  | none => rfl
  | some obj => cases hc : obj.client <;> simp [hc]

end DeploymentManager.Registry
