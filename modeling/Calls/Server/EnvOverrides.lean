import Mathlib.Algebra.Group.Nat.Defs
import Mathlib.Algebra.Group.Int.Defs
import Calls.Public

/-! Overrides of the configuration by environment variables: the walk over the fields of a struct, and
what setting a field from a variable makes of it. -/

set_option autoImplicit false

namespace Calls

/-! ### Texts and numbers -/

/-- White space, which is trimmed. -/
def isSpaceRune (c : Char) : Bool :=
  c ∈ ['\t', '\n', '\x0b', '\x0c', '\r', ' ', '\u0085', '\u00a0', '\u1680', '\u2028', '\u2029', '\u202f', '\u205f', '\u3000'] ∨
    ('\u2000' ≤ c ∧ c ≤ '\u200a')

def trimSpace (text : String) : String :=
  .ofList ((text.toList.dropWhile isSpaceRune).reverse.dropWhile isSpaceRune).reverse

def parseBool (text : String) : Option Bool :=
  if text ∈ ["1", "t", "T", "TRUE", "true", "True"] then some true
  else if text ∈ ["0", "f", "F", "FALSE", "false", "False"] then some false
  else none

/-- A number of decimal digits. -/
def parseDigits (digits : List Char) : Option Nat :=
  if digits = [] then none
  else digits.foldlM (fun n c => if c.isDigit then some (10 * n + (c.toNat - '0'.toNat)) else none) 0

/-- `ParseUint` of 64 bits. -/
def parseUint (text : String) : Option Nat := (parseDigits text.toList).filter fun n => n < 2 ^ 64

/-- `ParseInt` of 64 bits. -/
def parseInt (text : String) : Option Int :=
  let signed : Option Int :=
    match text.toList with
    | '-' :: digits => (parseDigits digits).map fun n => -(n : Int)
    | '+' :: digits => (parseDigits digits).map fun n => (n : Int)
    | digits => (parseDigits digits).map fun n => (n : Int)
  signed.filter fun n => -2 ^ 63 ≤ n ∧ n < 2 ^ 63

/-! ### Fields -/

inductive IntSize where
  | int8
  | int16
  | int32
  | int64
  deriving DecidableEq

/-- An `int` has 64 bits. -/
def IntSize.bits : IntSize → Nat
  | int8 => 8
  | int16 => 16
  | int32 => 32
  | int64 => 64

/-- The type of a field, by how it is set. A struct that is no part of the walk is of a type that cannot be set. -/
inductive FieldType where
  | string
  | bool
  | int (size : IntSize)
  | uint (size : IntSize)
  | duration
  | float32
  | float64
  | iceServersConfigs
  | strings
  | unsupported
  | pointer (elem : FieldType)
  deriving DecidableEq

/-- What the libraries read of texts, and their types with the zero values. A double may be too large for 32 bits. -/
structure EnvParsers where
  Float32 : Type
  Float64 : Type
  ICEServersConfigs : Type
  Unsupported : Type
  float32 : Float32
  float64 : Float64
  iceServersConfigs : ICEServersConfigs
  unsupported : Unsupported
  parseFloat : String → Option Float64
  narrow : Float64 → Option Float32
  parseDuration : String → Option (BitVec 64)
  unmarshalConfigs : String → Option ICEServersConfigs

variable (parsers : EnvParsers)

namespace FieldType

def Value : FieldType → Type
  | string => String
  | bool => Bool
  | int size => { n : Int // -2 ^ (size.bits - 1) ≤ n ∧ n < 2 ^ (size.bits - 1) }
  | uint size => { n : Nat // n < 2 ^ size.bits }
  | duration => BitVec 64
  | float32 => parsers.Float32
  | float64 => parsers.Float64
  | iceServersConfigs => parsers.ICEServersConfigs
  | strings => Option (List String)
  | unsupported => parsers.Unsupported
  | pointer elem => Option elem.Value

def zero : (type : FieldType) → type.Value parsers
  | string => ""
  | bool => false
  | int size => ⟨0, by cases size <;> decide⟩
  | uint size => ⟨0, by cases size <;> decide⟩
  | duration => 0#64
  | float32 => parsers.float32
  | float64 => parsers.float64
  | iceServersConfigs => parsers.iceServersConfigs
  | strings => none
  | unsupported => parsers.unsupported
  | pointer _ => none

/-- The value that a text is for; else what is logged, if anything is. -/
def parse : (type : FieldType) → String → Except (Option String) (type.Value parsers)
  | string, text => .ok text
  | bool, text =>
    match parseBool text with
    | some b => .ok b
    | none => .error (some "Failed to parse bool from environment variable")
  | int size, text =>
    match parseInt text with
    | some n =>
      if fits : -2 ^ (size.bits - 1) ≤ n ∧ n < 2 ^ (size.bits - 1) then .ok ⟨n, fits⟩
      else .error (some "Integer value overflows the field type")
    | none => .error (some "Failed to parse integer from environment variable")
  | uint size, text =>
    match parseUint text with
    | some n =>
      if fits : n < 2 ^ size.bits then .ok ⟨n, fits⟩
      else .error (some "Unsigned integer value overflows the field type")
    | none => .error (some "Failed to parse unsigned integer from environment variable")
  | duration, text =>
    match parsers.parseDuration text with
    | some d => .ok d
    | none => .error (some "Failed to parse duration from environment variable")
  | float32, text =>
    match parsers.parseFloat text with
    | some f =>
      match parsers.narrow f with
      | some f => .ok f
      | none => .error (some "Float value overflows the field type")
    | none => .error (some "Failed to parse float from environment variable")
  | float64, text =>
    match parsers.parseFloat text with
    | some f => .ok f
    | none => .error (some "Failed to parse float from environment variable")
  | iceServersConfigs, text =>
    match parsers.unmarshalConfigs text with
    | some configs => .ok configs
    | none => .error (some "Failed to unmarshal ICEServersConfigs from environment variable")
  | strings, text => .ok (some ((text.splitOn ",").map trimSpace))
  | unsupported, _ => .error none
  | pointer elem, text => (elem.parse text).map some

/-- No pointer of the field is nil. -/
def Allocated : (type : FieldType) → type.Value parsers → Prop
  | pointer elem, field => ∃ value, field = some value ∧ elem.Allocated value
  | _, _ => True

end FieldType

/-- What has become of a field. -/
structure FieldSet (α : Type) where
  field : α
  set : Bool
  logged : Option String := none

/-- A field keeps its value where there is none to set. -/
def FieldSet.ofParsed {α : Type} (field : α) : Except (Option String) α → FieldSet α
  | .ok value => { field := value, set := true }
  | .error logged => { field, set := false, logged }

def setFieldFromEnv : (type : FieldType) → type.Value parsers → String → FieldSet (type.Value parsers)
  | .pointer elem, field, envValue =>
    -- A nil pointer is initialized first.
    let inner := setFieldFromEnv elem (field.getD (elem.zero parsers)) envValue
    { field := some inner.field, set := inner.set, logged := inner.logged }
  | .string, field, envValue => .ofParsed field (FieldType.string.parse parsers envValue)
  | .bool, field, envValue => .ofParsed field (FieldType.bool.parse parsers envValue)
  | .int size, field, envValue => .ofParsed field ((FieldType.int size).parse parsers envValue)
  | .uint size, field, envValue => .ofParsed field ((FieldType.uint size).parse parsers envValue)
  | .duration, field, envValue => .ofParsed field (FieldType.duration.parse parsers envValue)
  | .float32, field, envValue => .ofParsed field (FieldType.float32.parse parsers envValue)
  | .float64, field, envValue => .ofParsed field (FieldType.float64.parse parsers envValue)
  | .iceServersConfigs, field, envValue => .ofParsed field (FieldType.iceServersConfigs.parse parsers envValue)
  | .strings, field, envValue => .ofParsed field (FieldType.strings.parse parsers envValue)
  | .unsupported, field, envValue => .ofParsed field (FieldType.unsupported.parse parsers envValue)

/-! ### The walk over a struct -/

/-- A field of a struct, as the walk takes it. -/
inductive StructField where
  /-- A field that a variable is looked up for. -/
  | leaf (name : String) (type : FieldType) (value : type.Value parsers)
  /-- A struct, or a pointer to one that is not nil. -/
  | struct (name : String) (fields : List StructField)
  /-- An embedded struct or pointer to one. A nil pointer is given by the fields of the zero struct. -/
  | embedded (isNil : Bool) (fields : List StructField)
  /-- A field that is not exported, or that is embedded and no struct. -/
  | skipped (name : String)

/-- An underscore goes between a letter or digit and the upper case letter after it. -/
def splitLowerToUpper : List Char → List Char
  | a :: b :: rest =>
    if (a.isLower ∨ a.isDigit) ∧ b.isUpper then a :: '_' :: splitLowerToUpper (b :: rest) else a :: splitLowerToUpper (b :: rest)
  | short => short

/-- An underscore goes before the last upper case letter of several. -/
def splitUpperToUpperLower : List Char → List Char
  | a :: b :: c :: rest =>
    if a.isUpper ∧ b.isUpper ∧ c.isLower then a :: '_' :: splitUpperToUpperLower (b :: c :: rest)
    else a :: splitUpperToUpperLower (b :: c :: rest)
  | short => short

def fieldNameToEnvKey (fieldName : String) : String :=
  .ofList ((splitUpperToUpperLower (splitLowerToUpper fieldName.toList)).map Char.toUpper)

example : ["camelCase", "RTCDServiceURL", "ICEHostPortOverride"].map fieldNameToEnvKey =
    ["CAMEL_CASE", "RTCD_SERVICE_URL", "ICE_HOST_PORT_OVERRIDE"] := by decide

def fullFieldPath (fieldPath fieldName : String) : String := if fieldPath ≠ "" then fieldPath ++ "." ++ fieldName else fieldName

section
variable {parsers} (lookupEnv : String → Option String) (envPrefix : String)

/-- A field that a variable is looked up for, and the overrides with its own. -/
def processLeaf (fieldPath name : String) (type : FieldType) (value : type.Value parsers) (overrideMap : StringMap String) :
    StructField parsers × StringMap String :=
  match lookupEnv (envPrefix ++ fieldNameToEnvKey name) with
  | none => (.leaf name type value, overrideMap)
  | some envValue =>
    let result := setFieldFromEnv parsers type value envValue
    (.leaf name type result.field, if result.set then overrideMap.set (fullFieldPath fieldPath name) envValue else overrideMap)

mutual

def processField (fieldPath : String) : StructField parsers → StringMap String → StructField parsers × StringMap String
  | .leaf name type value, overrideMap => processLeaf lookupEnv envPrefix fieldPath name type value overrideMap
  | .struct name fields, overrideMap =>
    let processed := processStructFields (fullFieldPath fieldPath name) fields overrideMap
    (.struct name processed.1, processed.2)
  | .embedded _ fields, overrideMap =>
    let processed := processStructFields fieldPath fields overrideMap
    (.embedded false processed.1, processed.2)
  | .skipped name, overrideMap => (.skipped name, overrideMap)

def processStructFields (fieldPath : String) :
    List (StructField parsers) → StringMap String → List (StructField parsers) × StringMap String
  | [], overrideMap => ([], overrideMap)
  | field :: fields, overrideMap =>
    let first := processField fieldPath field overrideMap
    let rest := processStructFields fieldPath fields first.2
    (first.1 :: rest.1, rest.2)

end

end

/-- The names of variables have an underscore after their first part. -/
def envVariablePrefix (envPrefix : String) : String :=
  if envPrefix ≠ "" ∧ envPrefix.toList.getLast? ≠ some '_' then envPrefix ++ "_" else envPrefix

/-- The configuration, given by its fields, with the overrides that were applied. -/
def applyEnvOverrides {parsers : EnvParsers} (lookupEnv : String → Option String) (envPrefix : String)
    (config : List (StructField parsers)) : List (StructField parsers) × StringMap String :=
  processStructFields lookupEnv (envVariablePrefix envPrefix) "" config .empty

/-! ### Overrides that are applied or leave no trace -/

section
variable {parsers} (lookupEnv : String → Option String) (envPrefix : String)

/-- A field holds the value that its variable is for, which is reported; without one it is as it was. -/
def overrideLeaf (fieldPath name : String) (type : FieldType) (value : type.Value parsers) (overrides : StringMap String) :
    StructField parsers × StringMap String :=
  match lookupEnv (envPrefix ++ fieldNameToEnvKey name) with
  | none => (.leaf name type value, overrides)
  | some envValue =>
    match type.parse parsers envValue with
    | .ok parsed => (.leaf name type parsed, overrides.set (fullFieldPath fieldPath name) envValue)
    | .error _ => (.leaf name type value, overrides)

mutual

def overrideField (fieldPath : String) : StructField parsers → StringMap String → StructField parsers × StringMap String
  | .leaf name type value, overrides => overrideLeaf lookupEnv envPrefix fieldPath name type value overrides
  | .struct name fields, overrides =>
    let overridden := overrideFields (fullFieldPath fieldPath name) fields overrides
    (.struct name overridden.1, overridden.2)
  | .embedded _ fields, overrides =>
    let overridden := overrideFields fieldPath fields overrides
    (.embedded false overridden.1, overridden.2)
  | .skipped name, overrides => (.skipped name, overrides)

def overrideFields (fieldPath : String) :
    List (StructField parsers) → StringMap String → List (StructField parsers) × StringMap String
  | [], overrides => ([], overrides)
  | field :: fields, overrides =>
    let first := overrideField fieldPath field overrides
    let rest := overrideFields fieldPath fields first.2
    (first.1 :: rest.1, rest.2)

end

mutual

/-- Each variable that is set is for a value of its field, or no pointer of the field is nil. -/
def AppliesOrAllocated : StructField parsers → Prop
  | .leaf name type value => ∀ envValue logged, lookupEnv (envPrefix ++ fieldNameToEnvKey name) = some envValue →
      type.parse parsers envValue = .error logged → type.Allocated parsers value
  | .struct _ fields => AllApplyOrAllocated fields
  | .embedded _ fields => AllApplyOrAllocated fields
  | .skipped _ => True

def AllApplyOrAllocated : List (StructField parsers) → Prop
  | [] => True
  | field :: fields => AppliesOrAllocated field ∧ AllApplyOrAllocated fields

end

end

section
variable {parsers}

/-- A value that a text is for is set, through pointers that may be nil. -/
theorem setFieldFromEnv_of_parse {type : FieldType} {value parsed : type.Value parsers} {envValue : String}
    (parses : type.parse parsers envValue = .ok parsed) :
    setFieldFromEnv parsers type value envValue = { field := parsed, set := true } := by
  induction type with
  | pointer elem ih =>
    unfold setFieldFromEnv
    unfold FieldType.parse at parses
    cases inner : elem.parse parsers envValue with
    | error logged =>
      rw [inner] at parses
      cases parses
    | ok innerValue =>
      rw [inner] at parses
      cases parses
      rw [ih inner]
  | _ =>
    unfold setFieldFromEnv
    rw [parses]
    rfl

/-- Else nothing is set, and the field is as it was exactly where no pointer of it is nil. -/
theorem setFieldFromEnv_of_fails {type : FieldType} (value : type.Value parsers) {envValue : String} {logged : Option String}
    (fails : type.parse parsers envValue = .error logged) :
    (setFieldFromEnv parsers type value envValue).set = false ∧
      ((setFieldFromEnv parsers type value envValue).field = value ↔ type.Allocated parsers value) := by
  induction type with
  | pointer elem ih =>
    unfold FieldType.parse at fails
    cases inner : elem.parse parsers envValue with
    | ok innerValue =>
      rw [inner] at fails
      cases fails
    | error innerLogged =>
      rw [inner] at fails
      cases fails
      unfold setFieldFromEnv FieldType.Allocated
      refine ⟨(ih _ inner).1, ?_⟩
      cases value with
      | none => exact iff_of_false nofun (fun allocated => nomatch allocated)
      | some pointed =>
        constructor
        · intro same
          exact ⟨pointed, rfl, (ih pointed inner).2.mp (Option.some.inj same)⟩
        · intro allocated
          obtain ⟨value, same, allocated⟩ := allocated
          obtain rfl := Option.some.inj same
          exact congrArg some ((ih pointed inner).2.mpr allocated)
  | _ =>
    unfold setFieldFromEnv
    rw [fails]
    exact ⟨rfl, iff_of_true rfl trivial⟩

variable (lookupEnv : String → Option String) (envPrefix : String)

/-- What is reported is right; a field is exactly where its condition holds. -/
theorem processLeaf_iff (fieldPath name : String) (type : FieldType) (value : type.Value parsers) (overrides : StringMap String) :
    (processLeaf lookupEnv envPrefix fieldPath name type value overrides).2 =
        (overrideLeaf lookupEnv envPrefix fieldPath name type value overrides).2 ∧
      ((processLeaf lookupEnv envPrefix fieldPath name type value overrides).1 =
          (overrideLeaf lookupEnv envPrefix fieldPath name type value overrides).1 ↔
        AppliesOrAllocated lookupEnv envPrefix (.leaf name type value)) := by
  unfold processLeaf overrideLeaf AppliesOrAllocated
  cases found : lookupEnv (envPrefix ++ fieldNameToEnvKey name) with
  | none => exact ⟨rfl, iff_of_true rfl fun envValue logged same => nomatch same⟩
  | some envValue =>
    dsimp only
    cases parsed : type.parse parsers envValue with
    | ok newValue =>
      rw [setFieldFromEnv_of_parse parsed]
      refine ⟨rfl, iff_of_true rfl fun other logged same fails => ?_⟩
      cases same
      rw [parsed] at fails
      cases fails
    | error logged =>
      obtain ⟨unset, keeps⟩ := setFieldFromEnv_of_fails value parsed
      rw [unset]
      refine ⟨rfl, ?_⟩
      constructor
      · intro same other otherLogged found _
        obtain ⟨-, -, kept⟩ := StructField.leaf.inj same
        exact keeps.mp (eq_of_heq kept)
      · intro applies
        rw [keeps.mpr (applies envValue logged rfl parsed)]

mutual

theorem processField_iff (fieldPath : String) : (field : StructField parsers) → (overrides : StringMap String) →
    (processField lookupEnv envPrefix fieldPath field overrides).2 = (overrideField lookupEnv envPrefix fieldPath field overrides).2 ∧
      ((processField lookupEnv envPrefix fieldPath field overrides).1 = (overrideField lookupEnv envPrefix fieldPath field overrides).1 ↔
        AppliesOrAllocated lookupEnv envPrefix field)
  | .leaf name type value, overrides => by
    unfold processField overrideField
    exact processLeaf_iff lookupEnv envPrefix fieldPath name type value overrides
  | .struct name fields, overrides => by
    obtain ⟨reported, fields⟩ := processStructFields_iff (fullFieldPath fieldPath name) fields overrides
    unfold processField overrideField AppliesOrAllocated
    refine ⟨reported, ?_⟩
    rw [StructField.struct.injEq, ← fields]
    exact and_iff_right rfl
  | .embedded isNil fields, overrides => by
    obtain ⟨reported, fields⟩ := processStructFields_iff fieldPath fields overrides
    unfold processField overrideField AppliesOrAllocated
    refine ⟨reported, ?_⟩
    rw [StructField.embedded.injEq, ← fields]
    exact and_iff_right rfl
  | .skipped name, overrides => by
    unfold processField overrideField AppliesOrAllocated
    exact ⟨rfl, iff_of_true rfl trivial⟩

theorem processStructFields_iff (fieldPath : String) : (fields : List (StructField parsers)) → (overrides : StringMap String) →
    (processStructFields lookupEnv envPrefix fieldPath fields overrides).2 =
        (overrideFields lookupEnv envPrefix fieldPath fields overrides).2 ∧
      ((processStructFields lookupEnv envPrefix fieldPath fields overrides).1 =
          (overrideFields lookupEnv envPrefix fieldPath fields overrides).1 ↔
        AllApplyOrAllocated lookupEnv envPrefix fields)
  | [], overrides => by
    unfold processStructFields overrideFields AllApplyOrAllocated
    exact ⟨rfl, iff_of_true rfl trivial⟩
  | field :: fields, overrides => by
    obtain ⟨reported, first⟩ := processField_iff fieldPath field overrides
    obtain ⟨rest, others⟩ := processStructFields_iff fieldPath fields (overrideField lookupEnv envPrefix fieldPath field overrides).2
    unfold processStructFields overrideFields AllApplyOrAllocated
    dsimp only
    rw [reported]
    refine ⟨rest, ?_⟩
    rw [List.cons.injEq, first, others]

end

end

/-- What the overrides are for: each field of the configuration holds the value that its variable is for, and is reported; a field
whose variable cannot be applied, or has none, is as it was. -/
def expectedOverrides {parsers : EnvParsers} (lookupEnv : String → Option String) (envPrefix : String)
    (config : List (StructField parsers)) : List (StructField parsers) × StringMap String :=
  overrideFields lookupEnv (envVariablePrefix envPrefix) "" config .empty

/-- They are where no variable that cannot be applied is that of a field with a nil pointer; what is reported always is. -/
theorem applyEnvOverrides_iff {parsers : EnvParsers} (lookupEnv : String → Option String) (envPrefix : String)
    (config : List (StructField parsers)) :
    (applyEnvOverrides lookupEnv envPrefix config = expectedOverrides lookupEnv envPrefix config ↔
      AllApplyOrAllocated lookupEnv (envVariablePrefix envPrefix) config) ∧
    (applyEnvOverrides lookupEnv envPrefix config).2 = (expectedOverrides lookupEnv envPrefix config).2 := by
  obtain ⟨reported, fields⟩ := processStructFields_iff lookupEnv (envVariablePrefix envPrefix) "" config .empty
  refine ⟨?_, reported⟩
  rw [← fields, Prod.ext_iff]
  exact and_iff_left reported

/-- Libraries that read no number of a text. -/
def noParsers : EnvParsers where
  Float32 := Unit
  Float64 := Unit
  ICEServersConfigs := Unit
  Unsupported := Unit
  float32 := ()
  float64 := ()
  iceServersConfigs := ()
  unsupported := ()
  parseFloat _ := none
  narrow _ := none
  parseDuration _ := none
  unmarshalConfigs _ := none

/-- The configuration has no port to override that of the ICE host candidates. -/
def iceHostPortOverride : StructField noParsers := .leaf "ICEHostPortOverride" (.pointer (.int .int64)) none

def notAPort (name : String) : Option String := if name = "MM_CALLS_ICE_HOST_PORT_OVERRIDE" then some "not-a-port" else none

/-- A port that is not one is taken for the port zero. -/
theorem not_expectedOverrides : ¬ ∀ (parsers : EnvParsers) lookupEnv envPrefix (config : List (StructField parsers)),
    applyEnvOverrides lookupEnv envPrefix config = expectedOverrides lookupEnv envPrefix config := by
  intro all
  have same := congrArg Prod.fst (all noParsers notAPort "MM_CALLS" [iceHostPortOverride])
  have applies := ((processStructFields_iff notAPort (envVariablePrefix "MM_CALLS") "" [iceHostPortOverride] .empty).2.mp same).1
  obtain ⟨port, nil, -⟩ := applies "not-a-port" (some "Failed to parse integer from environment variable") (by decide) rfl
  cases nil

end Calls
