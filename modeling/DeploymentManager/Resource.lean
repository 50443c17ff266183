import DeploymentManager.Notify

/-!
The `PtpInstance` and `PtpInterface` resources: the schemas the API server checks them against,
the JSON the Go type `PtpInterface` encodes to, and what a notification does to such an object.

The CustomResourceDefinitions of the two resources give each an OpenAPI v3 schema, of which they
use the keywords `type`, `properties`, `required`, `items`, `enum`, `maxLength` and `pattern`.
The API server applies each keyword where it bears on the value: `required` and `properties` to
an object, `items` to an array, `maxLength` and `pattern` to a string, and `type` and `enum` to
any value; members a schema does not name pass. The CRD of `PtpInterface` is generated from its Go
declaration: the JSON tags name the members, and the kubebuilder markers on `PtpInstance` become
its `maxLength` and `pattern`. Every value of the Go type encodes to JSON the CRD accepts exactly
when the markers hold of it.

`notifyControllers` lists these resources as `unstructured.Unstructured`, a JSON object, and bumps
the counter in `metadata.annotations`. On every object whose `metadata` is a map, the annotations
it reads back afterwards are those `bumped` makes, and nothing else changes; and under both schemas
every object is exactly as valid after the bump as before. (The API server checks more than the
schema, the annotations among it; that is not modelled.)
-/

namespace DeploymentManager.Resource

open DeploymentManager.Store DeploymentManager.Counter DeploymentManager.Notify

/-- A JSON value, as `encoding/json` decodes it into an `interface{}`; a number is kept as its
literal, which no schema here constrains. -/
inductive Value
  | null
  | bool (b : Bool)
  | number (literal : String)
  | string (s : String)
  | array (items : List Value)
  | object (members : List (String × Value))

abbrev Members := List (String × Value)

def setMember : Members → String → Value → Members
  | [], key, value => [(key, value)]
  | (k, v) :: ms, key, value =>
    if k = key then (key, value) :: ms else (k, v) :: setMember ms key value

lemma lookup_cons_ne {k k' : String} (h : k ≠ k') (v : Value) (ms : Members) :
    ((k', v) :: ms).lookup k = ms.lookup k := by
  simp [List.lookup_cons, beq_eq_false_iff_ne.mpr h]

@[simp] lemma lookup_setMember_self (ms : Members) (key : String) (value : Value) :
    (setMember ms key value).lookup key = some value := by
  induction ms with
  | nil => simp [setMember, List.lookup_cons]
  | cons m ms ih =>
    obtain ⟨k, v⟩ := m
    by_cases h : k = key
    · simp [setMember, List.lookup_cons, h]
    · simp only [setMember, if_neg h, lookup_cons_ne (Ne.symm h), ih]

lemma lookup_setMember_ne {k key : String} (h : k ≠ key) (ms : Members) (value : Value) :
    (setMember ms key value).lookup k = ms.lookup k := by
  induction ms with
  | nil => simp only [setMember, lookup_cons_ne h]
  | cons m ms ih =>
    obtain ⟨k', v⟩ := m
    by_cases h' : k' = key
    · subst h'
      rw [setMember, if_pos rfl, lookup_cons_ne h, lookup_cons_ne h]
    · by_cases hk : k = k'
      · subst hk; simp [setMember, h', List.lookup_cons]
      · simp only [setMember, if_neg h', lookup_cons_ne hk, ih]

/-! ### Schemas -/

inductive JsonType
  | string
  | boolean
  | array
  | object

def Value.hasType : Value → JsonType → Bool
  | .string _, .string => true
  | .bool _, .boolean => true
  | .array _, .array => true
  | .object _, .object => true
  | _, _ => false

/-- A `pattern` of the form `^[...]+$`: the ranges of its character class. -/
structure Pattern where
  ranges : List (Char × Char)

def Pattern.admits (p : Pattern) (c : Char) : Bool := p.ranges.any fun r => r.1 ≤ c && c ≤ r.2

/-- Go's `regexp.MatchString` of the pattern: `^` and `$` anchor it at both ends of the text, so
the text is one character of the class or more, and nothing else. -/
def Pattern.matches (p : Pattern) (s : String) : Bool := !s.toList.isEmpty && s.toList.all p.admits

/-- An OpenAPI v3 schema, with the keywords the CRDs use. -/
structure Schema where
  type : Option JsonType
  properties : List (String × Schema)
  required : List String
  items : Option Schema
  enum : List String
  maxLength : Option Nat
  pattern : Option Pattern

def enumOk (enum : List String) : Value → Bool
  | .string s => enum.isEmpty || enum.contains s
  | _ => enum.isEmpty

/-- The API server's check of a value against a schema. -/
def Schema.validate : Schema → Value → Bool
  | ⟨type, properties, required, items, enum, maxLength, pattern⟩, v =>
    type.all v.hasType && enumOk enum v &&
      match v with
      | .object members =>
        required.all (fun key => (members.lookup key).isSome) &&
          validateProperties properties members
      | .array vs => validateItems items vs
      | .string s => maxLength.all (s.length ≤ ·) && pattern.all (·.matches s)
      | _ => true
where
  validateProperties : List (String × Schema) → Members → Bool
    | [], _ => true
    | (key, s) :: ps, members =>
      (members.lookup key).all s.validate && validateProperties ps members
  validateItems : Option Schema → List Value → Bool
    | none, _ => true
    | some s, vs => vs.all s.validate

/-! ### The two CRDs

Schemas are built from a `type` and the keywords that go with it: `properties` and `required` for
an object, `items` for an array, `enum`, `maxLength` and `pattern` for a string; the root of an
`openAPIV3Schema` has `properties` alone. -/

def Schema.ofType (t : JsonType) : Schema := ⟨some t, [], [], none, [], none, none⟩

def Schema.object (properties : List (String × Schema)) (required : List String) : Schema :=
  ⟨some .object, properties, required, none, [], none, none⟩

def Schema.array (items : Schema) : Schema := ⟨some .array, [], [], some items, [], none, none⟩

def Schema.string (enum : List String) (maxLength : Option Nat) (pattern : Option Pattern) :
    Schema :=
  ⟨some .string, [], [], none, enum, maxLength, pattern⟩

def Schema.root (properties : List (String × Schema)) : Schema :=
  ⟨none, properties, [], none, [], none, none⟩

def parametersSchema : Schema := .array (.ofType .string)

def statusSchema : Schema :=
  .object [("id", .ofType .string), ("inSync", .ofType .boolean), ("reconciled", .ofType .boolean)]
    ["reconciled", "inSync"]

/-- The `openAPIV3Schema` of `ptpinstances.starlingx.windriver.com`. -/
def ptpInstanceSchema : Schema :=
  .root [("apiVersion", .ofType .string), ("kind", .ofType .string), ("metadata", .ofType .object),
    ("spec", .object [("parameters", parametersSchema),
      ("service", .string ["ptp4l", "phc2sys", "ts2phc"] none none)] ["service"]),
    ("status", statusSchema)]

/-- `^[a-zA-Z0-9\-_]+$`, the pattern of `ptpinstance`. -/
def ptpInstancePattern : Pattern := ⟨[('a', 'z'), ('A', 'Z'), ('0', '9'), ('-', '-'), ('_', '_')]⟩

def ptpInterfaceSpecSchema : Schema :=
  .object [("parameters", parametersSchema),
    ("ptpinstance", .string [] (some 255) (some ptpInstancePattern))] ["ptpinstance"]

/-- The `openAPIV3Schema` of `ptpinterfaces.starlingx.windriver.com`. -/
def ptpInterfaceSchema : Schema :=
  .root [("apiVersion", .ofType .string), ("kind", .ofType .string), ("metadata", .ofType .object),
    ("spec", ptpInterfaceSpecSchema), ("status", statusSchema)]

@[simp] lemma validate_ofType (t : JsonType) (v : Value) : (Schema.ofType t).validate v = v.hasType t := by
  cases v <;> cases t <;> rfl

@[simp] lemma validate_root (properties : List (String × Schema)) (members : Members) :
    (Schema.root properties).validate (.object members) =
      Schema.validate.validateProperties properties members := rfl

@[simp] lemma validate_object (properties : List (String × Schema)) (required : List String)
    (members : Members) :
    (Schema.object properties required).validate (.object members) =
      (required.all (fun key => (members.lookup key).isSome) &&
        Schema.validate.validateProperties properties members) := rfl

@[simp] lemma validate_array (items : Schema) (vs : List Value) :
    (Schema.array items).validate (.array vs) = vs.all items.validate := rfl

@[simp] lemma validate_string (enum : List String) (maxLength : Option Nat)
    (pattern : Option Pattern) (s : String) :
    (Schema.string enum maxLength pattern).validate (.string s) =
      ((enum.isEmpty || enum.contains s) && maxLength.all (s.length ≤ ·) &&
        pattern.all (·.matches s)) := by
  simp [Schema.string, Schema.validate, enumOk, Bool.and_assoc, Value.hasType]

@[simp] lemma validateProperties_nil (members : Members) :
    Schema.validate.validateProperties [] members = true := rfl

@[simp] lemma validateProperties_cons (key : String) (s : Schema) (ps : List (String × Schema))
    (members : Members) :
    Schema.validate.validateProperties ((key, s) :: ps) members =
      ((members.lookup key).all s.validate && Schema.validate.validateProperties ps members) := rfl
/-! ### `PtpInterface` and the JSON it encodes to -/

structure PtpInterfaceSpec where
  ptpInstance : String
  interfaceParameters : List String

/-- `PtpInterfaceStatus`; `id = none` is a nil pointer. -/
structure PtpInterfaceStatus where
  id : Option String
  reconciled : Bool
  inSync : Bool

/-- `PtpInterface`: the `apiVersion` and `kind` of its `TypeMeta`, the members its `ObjectMeta`
encodes to, its spec and its status. -/
structure PtpInterface where
  apiVersion : String
  kind : String
  metadata : Members
  spec : PtpInterfaceSpec
  status : PtpInterfaceStatus

/-- The member `encoding/json` writes for a field tagged `omitempty`: none when the field is
empty. -/
def omitEmpty (empty : Bool) (key : String) (value : Value) : Members :=
  if empty then [] else [(key, value)]

def PtpInterfaceSpec.toJson (s : PtpInterfaceSpec) : Value :=
  .object ([("ptpinstance", .string s.ptpInstance)] ++
    omitEmpty s.interfaceParameters.isEmpty "parameters" (.array (s.interfaceParameters.map .string)))

def PtpInterfaceStatus.toJson (s : PtpInterfaceStatus) : Value :=
  .object ((match s.id with
    | some id => [("id", .string id)]
    | none => []) ++ [("reconciled", .bool s.reconciled), ("inSync", .bool s.inSync)])

/-- `json.Marshal` of a `PtpInterface`: the inlined `TypeMeta`, whose fields are tagged
`apiVersion,omitempty` and `kind,omitempty`, then `metadata`, `spec` and `status`, structs that
`omitempty` never drops. -/
def PtpInterface.toJson (x : PtpInterface) : Value :=
  .object (omitEmpty x.apiVersion.isEmpty "apiVersion" (.string x.apiVersion) ++
    omitEmpty x.kind.isEmpty "kind" (.string x.kind) ++
    [("metadata", .object x.metadata), ("spec", x.spec.toJson), ("status", x.status.toJson)])

/-- The kubebuilder markers on `PtpInstance`: `MaxLength=255` and `Pattern=^[a-zA-Z0-9\-_]+$`. -/
def PtpInterfaceSpec.Valid (s : PtpInterfaceSpec) : Prop :=
  s.ptpInstance.length ≤ 255 ∧ ptpInstancePattern.matches s.ptpInstance = true

lemma statusSchema_validate_toJson (s : PtpInterfaceStatus) : statusSchema.validate s.toJson = true := by
  obtain ⟨id, reconciled, inSync⟩ := s
  cases id <;> simp [statusSchema, PtpInterfaceStatus.toJson, List.lookup_cons, Value.hasType]

lemma specSchema_validate_toJson (s : PtpInterfaceSpec) :
    ptpInterfaceSpecSchema.validate s.toJson = true ↔ s.Valid := by
  obtain ⟨ptpInstance, params⟩ := s
  cases h : params.isEmpty <;>
    simp [ptpInterfaceSpecSchema, parametersSchema, PtpInterfaceSpec.toJson, omitEmpty, h,
      List.lookup_cons, Value.hasType, PtpInterfaceSpec.Valid]

/-- **The CRD accepts what the Go type encodes to, exactly under its markers**: for every
`PtpInterface`, the API server's schema check accepts its JSON exactly when its `PtpInstance`
meets the kubebuilder markers. -/
theorem ptpInterface_validate_toJson (x : PtpInterface) :
    ptpInterfaceSchema.validate x.toJson = true ↔ x.spec.Valid := by
  rw [← specSchema_validate_toJson]
  cases h1 : x.apiVersion.isEmpty <;> cases h2 : x.kind.isEmpty <;>
    simp [ptpInterfaceSchema, PtpInterface.toJson, omitEmpty, h1, h2, List.lookup_cons, Value.hasType,
      statusSchema_validate_toJson]

/-! ### The bump on an unstructured object -/

/-- `NestedFieldNoCopy(obj, "metadata", key)`: the member `key` of `metadata`, when `metadata` is
a map. -/
def metadataMember (obj : Members) (key : String) : Option Value :=
  match obj.lookup "metadata" with
  | some (.object meta) => meta.lookup key
  | _ => none

def stringMap : Members → Option Annotations
  | [] => some ∅
  | (key, .string s) :: ms => (stringMap ms).map (·.insert key s)
  | _ :: _ => none

/-- `obj.GetAnnotations()`, that is `NestedStringMap(obj, "metadata", "annotations")`: nil unless
there is such a map of strings. -/
def getAnnotations (obj : Members) : Option Annotations :=
  match metadataMember obj "annotations" with
  | some (.object members) => stringMap members
  | _ => none

def toMembers (annotations : Annotations) : Members :=
  annotations.entries.map fun e => (e.1, .string e.2)

/-- `obj.SetAnnotations(annotations)` with a map that is not nil, that is
`SetNestedStringMap(obj, annotations, "metadata", "annotations")`: it makes `metadata` when it is
missing, and leaves the object as it was when `metadata` is there but is not a map. -/
def setAnnotations (obj : Members) (annotations : Annotations) : Members :=
  match obj.lookup "metadata" with
  | some (.object meta) =>
    setMember obj "metadata" (.object (setMember meta "annotations" (.object (toMembers annotations))))
  | some _ => obj
  | none => setMember obj "metadata" (.object [("annotations", .object (toMembers annotations))])

/-- The bump the object loop of `notifyControllers` makes on an object it listed. -/
def notifyUnstructured (obj : Members) : Members :=
  let annotations := (getAnnotations obj).getD ∅
  let count := getNextCount (index annotations notificationCountKey)
  setAnnotations obj (annotations.insert notificationCountKey count)

lemma stringMap_toMembers (annotations : Annotations) :
    stringMap (toMembers annotations) = some annotations := by
  obtain ⟨entries, hnd⟩ := annotations
  induction entries with
  | nil => rfl
  | cons e es ih =>
    obtain ⟨k, v⟩ := e
    have hk : k ∉ es.keys := (List.nodupKeys_cons.mp hnd).1
    simp only [toMembers, List.map_cons] at ih ⊢
    rw [stringMap, ih (List.nodupKeys_cons.mp hnd).2, Option.map_some']
    congr 1
    exact AList.ext (by simp [AList.insert, List.kerase_of_not_mem_keys hk])

lemma lookup_setAnnotations_ne {key : String} (h : key ≠ "metadata") (obj : Members)
    (annotations : Annotations) : (setAnnotations obj annotations).lookup key = obj.lookup key := by
  unfold setAnnotations
  split <;> first | rfl | exact lookup_setMember_ne h _ _

lemma lookup_metadata_setAnnotations (obj : Members) (annotations : Annotations) :
    (setAnnotations obj annotations).lookup "metadata" =
      match obj.lookup "metadata" with
      | some (.object meta) =>
        some (.object (setMember meta "annotations" (.object (toMembers annotations))))
      | some v => some v
      | none => some (.object [("annotations", .object (toMembers annotations))]) := by
  unfold setAnnotations
  cases hm : obj.lookup "metadata" with
  | none => simp
  | some v => cases v <;> simp [hm]

lemma metadataMember_setAnnotations_ne {key : String} (h : key ≠ "annotations") (obj : Members)
    (annotations : Annotations) :
    metadataMember (setAnnotations obj annotations) key = metadataMember obj key := by
  unfold metadataMember
  rw [lookup_metadata_setAnnotations]
  cases hm : obj.lookup "metadata" with
  | none => simp [lookup_cons_ne h]
  | some v => cases v <;> simp [lookup_setMember_ne h]

lemma getAnnotations_setAnnotations {obj : Members}
    (h : (obj.lookup "metadata").all (·.hasType .object)) (annotations : Annotations) :
    getAnnotations (setAnnotations obj annotations) = some annotations := by
  unfold getAnnotations metadataMember
  rw [lookup_metadata_setAnnotations]
  cases hm : obj.lookup "metadata" with
  | none => simp [List.lookup_cons, stringMap_toMembers]
  | some v =>
    rw [hm] at h
    cases v <;> simp_all [Value.hasType, stringMap_toMembers]

lemma metadata_validate_setAnnotations (obj : Members) (annotations : Annotations) :
    ((setAnnotations obj annotations).lookup "metadata").all (Schema.ofType .object).validate =
      (obj.lookup "metadata").all (Schema.ofType .object).validate := by
  rw [lookup_metadata_setAnnotations]
  cases hm : obj.lookup "metadata" with
  | none => rfl
  | some v => cases v <;> rfl

lemma validateProperties_setAnnotations {properties : List (String × Schema)}
    (h : ∀ s, ("metadata", s) ∈ properties → s = .ofType .object) (obj : Members)
    (annotations : Annotations) :
    Schema.validate.validateProperties properties (setAnnotations obj annotations) =
      Schema.validate.validateProperties properties obj := by
  induction properties with
  | nil => rfl
  | cons p ps ih =>
    obtain ⟨key, s⟩ := p
    rw [validateProperties_cons, validateProperties_cons,
      ih fun s hs => h s (List.mem_cons_of_mem _ hs)]
    by_cases hk : key = "metadata"
    · subst hk
      rw [h s (List.mem_cons_self _ _), metadata_validate_setAnnotations]
    · rw [lookup_setAnnotations_ne hk]

/-- **The bump is the store's bump, and nothing else**: on every object whose `metadata` is a map
or is missing, the annotations read back after the bump are those `bumped` makes of the object the
store's model reads, and every other member of the object and of its `metadata` is as it was. -/
theorem notifyUnstructured_bumped {obj : Members}
    (h : (obj.lookup "metadata").all (·.hasType .object)) {o : Object}
    (ho : o.annotations = getAnnotations obj) :
    getAnnotations (notifyUnstructured obj) = (bumped o).annotations ∧
      (∀ key, key ≠ "metadata" → (notifyUnstructured obj).lookup key = obj.lookup key) ∧
      ∀ key, key ≠ "annotations" →
        metadataMember (notifyUnstructured obj) key = metadataMember obj key := by
  refine ⟨?_, fun key hk => lookup_setAnnotations_ne hk _ _,
    fun key hk => metadataMember_setAnnotations_ne hk _ _⟩
  rw [notifyUnstructured, getAnnotations_setAnnotations h, bumped, ho]

def listedObject : Members :=
  [("kind", .string "PtpInterface"),
   ("metadata", .object [("name", .string "ptp1"),
     ("annotations", .object [("deployment-manager/notifications", .string "7")])])]

theorem notifyUnstructured_bumped_listed :
    (listedObject.lookup "metadata").all (·.hasType .object) = true ∧
      (⟨⟨group, version, kindPTPInterface⟩, "vim", "ptp1", getAnnotations listedObject, 0⟩ :
        Object).annotations = getAnnotations listedObject ∧
      getAnnotations (notifyUnstructured listedObject) =
        (bumped ⟨⟨group, version, kindPTPInterface⟩, "vim", "ptp1", getAnnotations listedObject, 0⟩).annotations ∧
      (∀ key, key ≠ "metadata" → (notifyUnstructured listedObject).lookup key = listedObject.lookup key) ∧
      ∀ key, key ≠ "annotations" →
        metadataMember (notifyUnstructured listedObject) key = metadataMember listedObject key :=
  ⟨rfl, rfl, @notifyUnstructured_bumped listedObject rfl _ rfl⟩

end DeploymentManager.Resource
