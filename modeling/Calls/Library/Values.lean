import Mathlib.Tactic.Ring
import Mathlib.Algebra.Order.Ring.Int

/-! Values whose type is known only when they run, and what is left of them when they are written as
JSON and read again: every number is then a double. -/

set_option autoImplicit false

/-- An integer that a double of 53 bits has exactly. -/
def IsDouble (n : Int) : Prop := ∃ (mantissa : Int) (exponent : Nat), mantissa.natAbs < 2 ^ 53 ∧ n = mantissa * 2 ^ exponent

/-- A double without a fraction. -/
structure IntegralDouble where
  value : Int
  exact : IsDouble value

namespace IntegralDouble

/-- The nearest double; of two, the one that is even. -/
def roundNat (n : Nat) : Nat :=
  let unit := 2 ^ (n.log2 - 52)
  let floor := n / unit
  let rest := n % unit
  if 2 * rest < unit ∨ (2 * rest = unit ∧ floor % 2 = 0) then floor * unit else (floor + 1) * unit

theorem isDouble_mul {mantissa : Nat} (exponent : Nat) (bound : mantissa ≤ 2 ^ 53) : IsDouble (mantissa * 2 ^ exponent : Nat) := by
  by_cases less : mantissa < 2 ^ 53
  · exact ⟨mantissa, exponent, by rwa [Int.natAbs_natCast], by push_cast; rfl⟩
  · have same : mantissa = 2 ^ 53 := by omega
    subst same
    refine ⟨1, 53 + exponent, by decide, ?_⟩
    rw [one_mul, pow_add]
    push_cast
    rfl

theorem floor_lt (n : Nat) : n / 2 ^ (n.log2 - 52) < 2 ^ 53 := by
  rw [Nat.div_lt_iff_lt_mul (Nat.two_pow_pos _), ← pow_add]
  refine Nat.lt_log2_self.trans_le (Nat.pow_le_pow_right Nat.two_pos ?_)
  omega

theorem isDouble_roundNat (n : Nat) : IsDouble (roundNat n) := by
  have floor := floor_lt n
  unfold roundNat
  dsimp only
  split
  · exact isDouble_mul _ floor.le
  · exact isDouble_mul _ floor

theorem isDouble_neg {n : Int} (exact : IsDouble n) : IsDouble (-n) := by
  obtain ⟨mantissa, exponent, bound, rfl⟩ := exact
  exact ⟨-mantissa, exponent, by rwa [Int.natAbs_neg], by rw [neg_mul]⟩

/-- What is a multiple of the unit is not rounded. -/
theorem roundNat_of_dvd {n : Nat} (multiple : 2 ^ (n.log2 - 52) ∣ n) : roundNat n = n := by
  have rest : n % 2 ^ (n.log2 - 52) = 0 := Nat.mod_eq_zero_of_dvd multiple
  unfold roundNat
  dsimp only
  rw [if_pos (.inl (by rw [rest]; exact Nat.two_pow_pos _)), Nat.div_mul_cancel multiple]

theorem roundNat_of_isDouble {n : Nat} (exact : IsDouble n) : roundNat n = n := by
  obtain ⟨mantissa, exponent, bound, same⟩ := exact
  have natural : n = mantissa.natAbs * 2 ^ exponent := by
    have abs := congrArg Int.natAbs same
    rwa [Int.natAbs_natCast, Int.natAbs_mul, Int.natAbs_pow] at abs
  refine roundNat_of_dvd ?_
  by_cases zero : n = 0
  · rw [zero]
    exact Nat.dvd_zero _
  · have log : n.log2 < 53 + exponent := by
      rw [Nat.log2_lt zero, natural, pow_add]
      exact Nat.mul_lt_mul_of_pos_right bound (Nat.two_pow_pos exponent)
    rw [natural]
    refine Dvd.dvd.mul_left (Nat.pow_dvd_pow 2 ?_) _
    rw [← natural]
    omega

def ofInt (n : Int) : IntegralDouble where
  value := if 0 ≤ n then roundNat n.natAbs else -roundNat n.natAbs
  exact := by
    split
    · exact isDouble_roundNat _
    · exact isDouble_neg (isDouble_roundNat _)

theorem value_ofInt {n : Int} (exact : IsDouble n) : (ofInt n).value = n := by
  have abs : IsDouble (n.natAbs : Int) := by
    rcases Int.natAbs_eq n with same | same
    · rwa [← same]
    · have negated := isDouble_neg exact
      rw [same, neg_neg] at negated
      exact negated
  unfold ofInt
  dsimp only
  rw [roundNat_of_isDouble abs]
  split <;> omega

@[simp] theorem ofInt_value (x : IntegralDouble) : ofInt x.value = x := by
  have same := value_ofInt x.exact
  cases h : ofInt x.value with
  | mk value exact =>
    rw [h] at same
    cases x
    cases same
    rfl

theorem isDouble_of_small {n : Int} (small : n.natAbs < 2 ^ 53) : IsDouble n := ⟨n, 0, small, by rw [pow_zero, mul_one]⟩

/-- The conversion to 64 bits, where the number has so many. -/
def toInt64? (x : IntegralDouble) : Option Int := if -2 ^ 63 ≤ x.value ∧ x.value < 2 ^ 63 then some x.value else none

theorem toInt64?_ofInt {n : Int} (small : n.natAbs < 2 ^ 53) : (ofInt n).toInt64? = some n := by
  unfold toInt64?
  rw [value_ofInt (isDouble_of_small small), if_pos]
  omega

end IntegralDouble

/-- A JSON text, read as a tree. Its numbers are integers. -/
inductive Json.Value where
  | null
  | bool (b : Bool)
  | number (n : Int)
  | string (s : String)
  | array (values : List Json.Value)
  | object (fields : List (String × Json.Value))

/-- A value of any type. One of a type that is not looked at is given by what it is marshalled to. -/
inductive Any where
  | nil
  | bool (b : Bool)
  | int64 (n : Int)
  | float64 (x : IntegralDouble)
  | string (s : String)
  | slice (values : List Any)
  | map (fields : List (String × Any))
  | typed (json : Json.Value)

mutual

def Any.marshal : Any → Json.Value
  | .nil => .null
  | .bool b => .bool b
  | .int64 n => .number n
  | .float64 x => .number x.value
  | .string s => .string s
  | .slice values => .array (marshalAll values)
  | .map fields => .object (marshalFields fields)
  | .typed json => json

def Any.marshalAll : List Any → List Json.Value
  | [] => []
  | value :: values => value.marshal :: marshalAll values

def Any.marshalFields : List (String × Any) → List (String × Json.Value)
  | [] => []
  | (key, value) :: fields => (key, value.marshal) :: marshalFields fields

end

mutual

/-- What is read where no type is asked for. -/
def Json.Value.unmarshal : Json.Value → Any
  | .null => .nil
  | .bool b => .bool b
  | .number n => .float64 (.ofInt n)
  | .string s => .string s
  | .array values => .slice (unmarshalAll values)
  | .object fields => .map (unmarshalFields fields)

def Json.Value.unmarshalAll : List Json.Value → List Any
  | [] => []
  | value :: values => value.unmarshal :: unmarshalAll values

def Json.Value.unmarshalFields : List (String × Json.Value) → List (String × Any)
  | [] => []
  | (key, value) :: fields => (key, value.unmarshal) :: unmarshalFields fields

end

namespace Any

/-- `v.(int64)`, which is zero for a value of another type. -/
def assertInt64 : Option Any → Int
  | some (.int64 n) => n
  | _ => 0

/-- `v.(string)`, which is empty for a value of another type. -/
def assertString : Option Any → String
  | some (.string s) => s
  | _ => ""

/-- No value that was read is an integer of 64 bits. -/
@[simp] theorem assertInt64_unmarshal (json : Option Json.Value) : assertInt64 (json.map Json.Value.unmarshal) = 0 := by
  cases json with
  | none => rfl
  | some json => cases json <;> rfl

end Any
