import Calls.Server.EnvOverrides
import Calls.Library.Replacements

/-! The keys of the variables that override fields: the words of a field's name, with underscores between them. -/

set_option autoImplicit false

namespace Calls

/-! ### The two rewrites -/

/-- `([a-z0-9])([A-Z])` -/
def reFieldLowerToUpper : ClassPattern Char where
  classes := [fun c => c.isLower || c.isDigit, Char.isUpper]
  nonempty := List.cons_ne_nil _ _

/-- `([A-Z])([A-Z][a-z])` -/
def reFieldUpperToUpperLower : ClassPattern Char where
  classes := [Char.isUpper, Char.isUpper, Char.isLower]
  nonempty := List.cons_ne_nil _ _

/-- `${1}_${2}`, the first group being one letter. -/
def underscoreBetween (found : List Char) : List Char := found.take 1 ++ '_' :: found.drop 1

theorem isLower_of_isUpper {c : Char} (upper : c.isUpper = true) : c.isLower = false := by
  unfold Char.isUpper at upper
  unfold Char.isLower
  have lastUpper : 'Z'.val.toNat = 90 := rfl
  have firstLower : 'a'.val.toNat = 97 := rfl
  simp only [decide_eq_true_eq, ge_iff_le, UInt32.le_iff_toNat_le] at upper
  simp only [Bool.and_eq_false_iff, decide_eq_false_iff_not, ge_iff_le, UInt32.le_iff_toNat_le]
  omega

theorem isDigit_of_isUpper {c : Char} (upper : c.isUpper = true) : c.isDigit = false := by
  unfold Char.isUpper at upper
  unfold Char.isDigit
  have firstUpper : 'A'.val.toNat = 65 := rfl
  have lastDigit : '9'.val.toNat = 57 := rfl
  simp only [decide_eq_true_eq, ge_iff_le, UInt32.le_iff_toNat_le] at upper
  simp only [Bool.and_eq_false_iff, decide_eq_false_iff_not, ge_iff_le, UInt32.le_iff_toNat_le]
  omega

theorem isUpper_of_isLower {c : Char} (lower : c.isLower = true) : c.isUpper = false := by
  cases upper : c.isUpper with
  | false => rfl
  | true =>
    rw [isLower_of_isUpper upper] at lower
    cases lower

theorem reFieldLowerToUpper_matchesAt {a b : Char} {rest : List Char} :
    reFieldLowerToUpper.matchesAt (a :: b :: rest) = ((a.isLower || a.isDigit) && b.isUpper) := by
  show (_ && (_ && true)) = _
  rw [Bool.and_true]

theorem reFieldUpperToUpperLower_matchesAt {a b c : Char} {rest : List Char} :
    reFieldUpperToUpperLower.matchesAt (a :: b :: c :: rest) = (a.isUpper && (b.isUpper && c.isLower)) := by
  show (_ && (_ && (_ && true))) = _
  rw [Bool.and_true]

theorem reFieldLowerToUpper_short {text : List Char} (short : text.length < 2) : reFieldLowerToUpper.matchesAt text = false :=
  ClassPattern.matchesAt_of_short short

theorem reFieldUpperToUpperLower_short {text : List Char} (short : text.length < 3) :
    reFieldUpperToUpperLower.matchesAt text = false := ClassPattern.matchesAt_of_short short

theorem lowerToUpper_of_matchesAt {text : List Char} (found : reFieldLowerToUpper.matchesAt text = true) :
    ∃ a b rest, text = a :: b :: rest ∧ (a.isLower = true ∨ a.isDigit = true) ∧ b.isUpper = true := by
  match text with
  | [] | [_] =>
    rw [reFieldLowerToUpper_short (by simp)] at found
    cases found
  | a :: b :: rest =>
    rw [reFieldLowerToUpper_matchesAt, Bool.and_eq_true, Bool.or_eq_true] at found
    exact ⟨a, b, rest, rfl, found⟩

theorem upperToUpperLower_of_matchesAt {text : List Char} (found : reFieldUpperToUpperLower.matchesAt text = true) :
    ∃ a b c rest, text = a :: b :: c :: rest ∧ a.isUpper = true ∧ b.isUpper = true ∧ c.isLower = true := by
  match text with
  | [] | [_] | [_, _] =>
    rw [reFieldUpperToUpperLower_short (by simp)] at found
    cases found
  | a :: b :: c :: rest =>
    rw [reFieldUpperToUpperLower_matchesAt, Bool.and_eq_true, Bool.and_eq_true] at found
    exact ⟨a, b, c, rest, rfl, found⟩

/-- The upper case letter that a match ends with begins no match. -/
theorem apart_reFieldLowerToUpper : reFieldLowerToUpper.Apart := by
  intro text found i positive inside
  obtain ⟨a, b, rest, rfl, -, upper⟩ := lowerToUpper_of_matchesAt found
  have one : i = 1 := by
    have two : reFieldLowerToUpper.length = 2 := rfl
    omega
  subst one
  show ((b.isLower || b.isDigit) && _) = false
  rw [isLower_of_isUpper upper, isDigit_of_isUpper upper]
  rfl

/-- A match goes on with an upper case letter before a lower case one, and neither begins a match. -/
theorem apart_reFieldUpperToUpperLower : reFieldUpperToUpperLower.Apart := by
  intro text found i positive inside
  obtain ⟨a, b, c, rest, rfl, -, -, lower⟩ := upperToUpperLower_of_matchesAt found
  have notUpper : c.isUpper = false := isUpper_of_isLower lower
  have inner : i = 1 ∨ i = 2 := by
    have three : reFieldUpperToUpperLower.length = 3 := rfl
    omega
  obtain rfl | rfl := inner
  · show (_ && (c.isUpper && _)) = false
    rw [notUpper, Bool.false_and, Bool.and_false]
  · show (c.isUpper && _) = false
    rw [notUpper, Bool.false_and]

theorem splitLowerToUpper_eq (text : List Char) :
    splitLowerToUpper text = insertMarks '_' reFieldLowerToUpper.matchesAt text := by
  fun_induction splitLowerToUpper text with
  | case1 a b rest found ih =>
    have isCut : reFieldLowerToUpper.matchesAt (a :: b :: rest) = true := by
      rw [reFieldLowerToUpper_matchesAt]
      simpa using found
    rw [insertMarks_of_cut isCut, ih]
  | case2 a b rest whole ih =>
    have isWhole : reFieldLowerToUpper.matchesAt (a :: b :: rest) = false := by
      rw [reFieldLowerToUpper_matchesAt]
      simpa using whole
    rw [insertMarks_of_not_cut isWhole, ih]
  | case3 short shorter =>
    match short with
    | [] => rfl
    | [c] =>
      rw [insertMarks_of_not_cut (reFieldLowerToUpper_short (by simp))]
      rfl
    | a :: b :: rest => exact absurd rfl (shorter a b rest)

theorem splitUpperToUpperLower_eq (text : List Char) :
    splitUpperToUpperLower text = insertMarks '_' reFieldUpperToUpperLower.matchesAt text := by
  fun_induction splitUpperToUpperLower text with
  | case1 a b c rest found ih =>
    have isCut : reFieldUpperToUpperLower.matchesAt (a :: b :: c :: rest) = true := by
      rw [reFieldUpperToUpperLower_matchesAt]
      simpa using found
    rw [insertMarks_of_cut isCut, ih]
  | case2 a b c rest whole ih =>
    have isWhole : reFieldUpperToUpperLower.matchesAt (a :: b :: c :: rest) = false := by
      rw [reFieldUpperToUpperLower_matchesAt]
      simpa using whole
    rw [insertMarks_of_not_cut isWhole, ih]
  | case3 short shorter =>
    match short with
    | [] => rfl
    | [c] =>
      rw [insertMarks_of_not_cut (reFieldUpperToUpperLower_short (by simp))]
      rfl
    | [a, b] =>
      rw [insertMarks_of_not_cut (reFieldUpperToUpperLower_short (by simp)),
        insertMarks_of_not_cut (reFieldUpperToUpperLower_short (by simp))]
      rfl
    | a :: b :: c :: rest => exact absurd rfl (shorter a b c rest)

/-- The function is the two replacements one after the other. -/
theorem fieldNameToEnvKey_eq_replaceAll (fieldName : String) :
    fieldNameToEnvKey fieldName = .ofList ((reFieldUpperToUpperLower.replaceAll underscoreBetween
      (reFieldLowerToUpper.replaceAll underscoreBetween fieldName.toList)).map Char.toUpper) := by
  unfold underscoreBetween
  rw [ClassPattern.replaceAll_eq_insertMarks apart_reFieldLowerToUpper,
    ClassPattern.replaceAll_eq_insertMarks apart_reFieldUpperToUpperLower, fieldNameToEnvKey, splitLowerToUpper_eq,
    splitUpperToUpperLower_eq]

/-! ### Where the underscores are -/

/-- An underscore belongs after the letter at the position. -/
def isWordBoundary (name : List Char) (i : Nat) : Bool :=
  match name[i]?, name[i + 1]? with
  | some a, some b => (a.isLower || a.isDigit) && b.isUpper || a.isUpper && b.isUpper && name[i + 2]?.any Char.isLower
  | _, _ => false

/-- Either rewrite finds a match here. -/
def endsWord (text : List Char) : Bool := reFieldLowerToUpper.matchesAt text || reFieldUpperToUpperLower.matchesAt text

theorem endsWord_eq (text : List Char) : endsWord text = isWordBoundary text 0 := by
  unfold endsWord isWordBoundary
  match text with
  | [] => rfl
  | [a] =>
    rw [reFieldLowerToUpper_short (by simp), reFieldUpperToUpperLower_short (by simp)]
    rfl
  | [a, b] =>
    rw [reFieldLowerToUpper_matchesAt, reFieldUpperToUpperLower_short (by simp)]
    simp
  | a :: b :: c :: rest =>
    rw [reFieldLowerToUpper_matchesAt, reFieldUpperToUpperLower_matchesAt]
    simp [Bool.and_assoc]

theorem isWordBoundary_eq (name : List Char) (i : Nat) : isWordBoundary name i = endsWord (name.drop i) := by
  rw [endsWord_eq]
  unfold isWordBoundary
  simp [List.getElem?_drop]

theorem reFieldUpperToUpperLower_second {a b : Char} {rest : List Char} (notUpper : b.isUpper = false) :
    reFieldUpperToUpperLower.matchesAt (a :: b :: rest) = false := by
  show (_ && (b.isUpper && _)) = false
  rw [notUpper, Bool.false_and, Bool.and_false]

/-- The second rewrite finds its matches where they were before the first one. -/
theorem reFieldUpperToUpperLower_insertMarks (c : Char) (text : List Char) :
    reFieldUpperToUpperLower.matchesAt (c :: insertMarks '_' reFieldLowerToUpper.matchesAt text) =
      reFieldUpperToUpperLower.matchesAt (c :: text) := by
  match text with
  | [] => rfl
  | [b] => rw [insertMarks_of_not_cut (reFieldLowerToUpper_short (by simp))]; rfl
  | b :: d :: rest =>
    cases upper : b.isUpper with
    | true =>
      have whole : reFieldLowerToUpper.matchesAt (b :: d :: rest) = false := by
        rw [reFieldLowerToUpper_matchesAt, isLower_of_isUpper upper, isDigit_of_isUpper upper]
        rfl
      rw [insertMarks_of_not_cut whole, reFieldUpperToUpperLower_matchesAt]
      unfold insertMarks
      split <;> rw [reFieldUpperToUpperLower_matchesAt]
    | false =>
      rw [reFieldUpperToUpperLower_second upper]
      unfold insertMarks
      split <;> rw [reFieldUpperToUpperLower_second upper]

theorem fieldNameToEnvKey_toList (fieldName : String) :
    (fieldNameToEnvKey fieldName).toList = (insertMarks '_' endsWord fieldName.toList).map Char.toUpper := by
  have both : insertMarks '_' reFieldUpperToUpperLower.matchesAt
      (insertMarks '_' reFieldLowerToUpper.matchesAt fieldName.toList) = insertMarks '_' endsWord fieldName.toList := by
    refine insertMarks_insertMarks (fun _ => rfl) (fun _ _ => reFieldUpperToUpperLower_second rfl) (fun c text _ => ?_) _
    exact reFieldUpperToUpperLower_insertMarks c text
  rw [fieldNameToEnvKey, splitLowerToUpper_eq, splitUpperToUpperLower_eq, both, String.toList_ofList]

theorem toUpper_ne_underscore {c : Char} (alphanumeric : c.isAlphanum = true) : c.toUpper ≠ '_' := by
  intro same
  unfold Char.toUpper at same
  split at same
  · next lower =>
    have value := congrArg (fun c : Char => c.val.toNat) same
    have first : 'a'.val.toNat = 97 := rfl
    have last : 'z'.val.toNat = 122 := rfl
    have shift : ('A'.val - 'a'.val).toNat = 2 ^ 32 - 32 := rfl
    have underscore : '_'.val.toNat = 95 := rfl
    simp only [UInt32.le_iff_toNat_le, first, last] at lower
    simp only [UInt32.toNat_add, shift, underscore] at value
    omega
  · rw [same] at alphanumeric
    revert alphanumeric
    decide

/-! ### The keys of names -/

theorem fieldNameToEnvKey_eq_flatMap (fieldName : String) :
    (fieldNameToEnvKey fieldName).toList = fieldName.toList.zipIdx.flatMap fun letter =>
      if isWordBoundary fieldName.toList letter.2 then [letter.1.toUpper, '_'] else [letter.1.toUpper] := by
  rw [fieldNameToEnvKey_toList, insertMarks_eq_flatMap, List.map_flatMap]
  congr 1
  funext letter
  rw [isWordBoundary_eq]
  split <;> rfl

section
variable {fieldName : String} (alphanumeric : ∀ c ∈ fieldName.toList, c.isAlphanum = true)
include alphanumeric

/-- No letter of a name is written as an underscore. -/
theorem toUpper_beq_underscore : ∀ c ∈ fieldName.toList, (c.toUpper == '_') = false := by
  intro c member
  exact beq_eq_false_iff_ne.mpr (toUpper_ne_underscore (alphanumeric c member))

theorem head?_fieldNameToEnvKey : (fieldNameToEnvKey fieldName).toList.head? ≠ some '_' := by
  rw [fieldNameToEnvKey_toList, List.head?_map, head?_insertMarks]
  intro first
  obtain ⟨c, isFirst, same⟩ := Option.map_eq_some_iff.mp first
  exact toUpper_ne_underscore (alphanumeric c (List.mem_of_mem_head? isFirst)) same

theorem getLast?_fieldNameToEnvKey : (fieldNameToEnvKey fieldName).toList.getLast? ≠ some '_' := by
  have ends (c : Char) : endsWord [c] = false := by
    rw [endsWord, reFieldLowerToUpper_short (by simp), reFieldUpperToUpperLower_short (by simp)]
    rfl
  rw [fieldNameToEnvKey_toList, List.getLast?_map, getLast?_insertMarks ends]
  intro last
  obtain ⟨c, isLast, same⟩ := Option.map_eq_some_iff.mp last
  exact toUpper_ne_underscore (alphanumeric c (List.mem_of_mem_getLast? isLast)) same

theorem not_doubled_fieldNameToEnvKey : ¬ ['_', '_'] <:+: (fieldNameToEnvKey fieldName).toList := by
  intro doubled
  have apart : (fieldNameToEnvKey fieldName).toList.IsChain fun left right => (left == '_') = false ∨ (right == '_') = false := by
    rw [fieldNameToEnvKey_toList, List.isChain_map]
    exact isChain_insertMarks (toUpper_beq_underscore alphanumeric)
  have two := apart.infix doubled
  simp at two

/-- Without its underscores the key is the name in upper case. -/
theorem filter_fieldNameToEnvKey :
    (fieldNameToEnvKey fieldName).toList.filter (fun c => !(c == '_')) = fieldName.toList.map Char.toUpper := by
  rw [fieldNameToEnvKey_toList, List.filter_map]
  exact congrArg (List.map Char.toUpper) (filter_insertMarks rfl (toUpper_beq_underscore alphanumeric))

end

/-- The key of a name is the name in upper case with an underscore at each boundary of its words. -/
theorem fieldNameToEnvKey_words (fieldName : String) (alphanumeric : ∀ c ∈ fieldName.toList, c.isAlphanum = true) :
    (fieldNameToEnvKey fieldName = .ofList ((reFieldUpperToUpperLower.replaceAll underscoreBetween
      (reFieldLowerToUpper.replaceAll underscoreBetween fieldName.toList)).map Char.toUpper)) ∧
    ((fieldNameToEnvKey fieldName).toList = fieldName.toList.zipIdx.flatMap fun letter =>
      if isWordBoundary fieldName.toList letter.2 then [letter.1.toUpper, '_'] else [letter.1.toUpper]) ∧
    ((fieldNameToEnvKey fieldName).toList.head? ≠ some '_' ∧ (fieldNameToEnvKey fieldName).toList.getLast? ≠ some '_' ∧
      ¬ ['_', '_'] <:+: (fieldNameToEnvKey fieldName).toList) ∧
    ∀ other : String, (∀ c ∈ other.toList, c.isAlphanum = true) → fieldNameToEnvKey other = fieldNameToEnvKey fieldName →
      other.toList.map Char.toUpper = fieldName.toList.map Char.toUpper := by
  refine ⟨fieldNameToEnvKey_eq_replaceAll fieldName, fieldNameToEnvKey_eq_flatMap fieldName,
    ⟨head?_fieldNameToEnvKey alphanumeric, getLast?_fieldNameToEnvKey alphanumeric,
      not_doubled_fieldNameToEnvKey alphanumeric⟩, fun other otherAlphanumeric same => ?_⟩
  rw [← filter_fieldNameToEnvKey otherAlphanumeric, same, filter_fieldNameToEnvKey alphanumeric]

theorem fieldNameToEnvKey_serviceURL : fieldNameToEnvKey "RTCDServiceURL" = "RTCD_SERVICE_URL" ∧
    ∀ other : String, (∀ c ∈ other.toList, c.isAlphanum = true) →
      fieldNameToEnvKey other = fieldNameToEnvKey "RTCDServiceURL" → other.toList.map Char.toUpper = "RTCDSERVICEURL".toList :=
  ⟨by decide, (fieldNameToEnvKey_words "RTCDServiceURL" (List.all_eq_true.mp (by decide))).2.2.2⟩

end Calls
