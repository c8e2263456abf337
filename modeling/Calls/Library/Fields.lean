import Mathlib.Logic.Function.Basic
import Mathlib.Data.List.Basic

/-! Records given by the values of their fields. The entries of a text are read into one after the other, each
over the value that its field has already. -/

set_option autoImplicit false

namespace Fields

variable {Field Key Text : Type} [DecidableEq Field] {Value : Field → Type}

section
variable (fieldOf : Key → Option Field) (read : (field : Field) → Text → Value field → Option (Value field))

/-- An entry of no field is passed over. -/
def readEntry (record : (field : Field) → Value field) (entry : Key × Text) : Option ((field : Field) → Value field) :=
  match fieldOf entry.1 with
  | none => some record
  | some field => (read field entry.2 (record field)).map (Function.update record field)

def readAll (record : (field : Field) → Value field) (entries : List (Key × Text)) : Option ((field : Field) → Value field) :=
  entries.foldlM (readEntry fieldOf read) record

/-- What is read into one field. -/
def readField (field : Field) (value : Value field) (entries : List (Key × Text)) : Option (Value field) :=
  (entries.filter fun entry => fieldOf entry.1 = some field).foldlM (fun value entry => read field entry.2 value) value

/-- Whether a text is read does not depend on the value that it is read over. -/
def Uniform : Prop := ∀ field text value value', (read field text value).isSome → (read field text value').isSome

/-- An entry that is passed over or read, over any value. -/
def Readable (entry : Key × Text) : Prop := ∀ field, fieldOf entry.1 = some field → ∀ value, (read field entry.2 value).isSome

end

variable {fieldOf : Key → Option Field} {read : (field : Field) → Text → Value field → Option (Value field)}
  {record result : (field : Field) → Value field} {entry : Key × Text} {entries : List (Key × Text)}

theorem readEntry_isSome_iff (record : (field : Field) → Value field) (uniform : Uniform read) :
    (readEntry fieldOf read record entry).isSome ↔ Readable fieldOf read entry := by
  unfold readEntry Readable
  cases fieldOf entry.1 with
  | none => simp
  | some field =>
    simp only [Option.isSome_map, Option.some.injEq]
    constructor
    · rintro readable _ rfl value
      exact uniform _ _ _ _ readable
    · intro readable
      exact readable field rfl _

/-- All is read where each entry is readable. -/
theorem readAll_isSome_iff (uniform : Uniform read) :
    (readAll fieldOf read record entries).isSome ↔ ∀ entry ∈ entries, Readable fieldOf read entry := by
  unfold readAll
  induction entries generalizing record with
  | nil => simp
  | cons entry entries ih =>
    rw [List.foldlM_cons, List.forall_mem_cons, ← readEntry_isSome_iff record uniform]
    cases readEntry fieldOf read record entry with
    | none => simp
    | some next => simpa using ih

theorem readField_of_readEntry (field : Field) (readTo : readEntry fieldOf read record entry = some result) :
    readField fieldOf read field (record field) [entry] = some (result field) := by
  unfold readEntry at readTo
  unfold readField
  cases named : fieldOf entry.1 with
  | none =>
    rw [named] at readTo
    cases readTo
    simp [named]
  | some other =>
    rw [named] at readTo
    obtain ⟨value, isRead, rfl⟩ := Option.map_eq_some_iff.mp readTo
    by_cases same : other = field
    · subst same
      simp [named, isRead]
    · simp [named, same, Function.update_of_ne (Ne.symm same)]

theorem readField_cons (field : Field) (value : Value field) :
    readField fieldOf read field value (entry :: entries) =
      (readField fieldOf read field value [entry]).bind fun value => readField fieldOf read field value entries := by
  unfold readField
  rw [← List.singleton_append, List.filter_append, List.foldlM_append]
  rfl

theorem readField_of_readAll (field : Field) (readTo : readAll fieldOf read record entries = some result) :
    readField fieldOf read field (record field) entries = some (result field) := by
  induction entries generalizing record with
  | nil =>
    cases readTo
    rfl
  | cons entry entries ih =>
    obtain ⟨next, first, rest⟩ := Option.bind_eq_some_iff.mp readTo
    rw [readField_cons, readField_of_readEntry field first]
    exact ih rest

/-- A relation between two values of a field that is kept whatever is read over both holds between what the same entries make of them. -/
theorem readField_rel (field : Field) (rel : Value field → Value field → Prop)
    (kept : ∀ text value value' next next', rel value value' → read field text value = some next → read field text value' = some next' →
      rel next next')
    {entries' : List (Key × Text)}
    (same : (entries.filter fun entry => fieldOf entry.1 = some field) = entries'.filter fun entry => fieldOf entry.1 = some field)
    {value value' after after' : Value field} (start : rel value value')
    (first : readField fieldOf read field value entries = some after) (second : readField fieldOf read field value' entries' = some after') :
    rel after after' := by
  unfold readField at first second
  rw [← same] at second
  generalize (entries.filter fun entry => fieldOf entry.1 = some field) = own at first second
  induction own generalizing value value' with
  | nil =>
    cases first
    cases second
    exact start
  | cons entry own ih =>
    obtain ⟨next, readFirst, first⟩ := Option.bind_eq_some_iff.mp first
    obtain ⟨next', readSecond, second⟩ := Option.bind_eq_some_iff.mp second
    exact ih (kept _ _ _ _ _ start readFirst readSecond) first second

end Fields
