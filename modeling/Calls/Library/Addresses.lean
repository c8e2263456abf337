import Calls.Library.Json

/-! Texts of IP addresses, without a zone. -/

set_option autoImplicit false

namespace Address

/-- A decimal number of 8 bits, without leading zeros. -/
def isOctet (digits : List Char) : Bool :=
  digits ≠ [] ∧ digits.all Char.isDigit ∧ (digits.length = 1 ∨ digits.head? ≠ some '0') ∧
    digits.foldl (fun n c => 10 * n + (c.toNat - '0'.toNat)) 0 ≤ 255

def isIPv4 (text : List Char) : Bool :=
  let octets := text.splitOn '.'
  octets.length = 4 ∧ octets.all isOctet

def isGroup (digits : List Char) : Bool := digits ≠ [] ∧ digits.length ≤ 4 ∧ digits.all Json.isHex

/-- An address has 16 bytes, of which an ellipsis stands for some. -/
def isComplete (bytes : Nat) (ellipsis : Bool) : Bool := if ellipsis then bytes < 16 else bytes = 16

/-- The groups between the colons, after so many bytes. An empty one in their middle, or two of them at their end, are an ellipsis. -/
def areGroups (bytes : Nat) (ellipsis : Bool) : List (List Char) → Bool
  | [] => false
  | [group] =>
    bytes < 16 ∧ if isGroup group then isComplete (bytes + 2) ellipsis
      else isIPv4 group ∧ (ellipsis ∨ bytes = 12) ∧ bytes + 4 ≤ 16 ∧ isComplete (bytes + 4) ellipsis
  | [_, []] => false
  | [group, [], []] => bytes < 16 ∧ isGroup group ∧ !ellipsis ∧ isComplete (bytes + 2) true
  | group :: [] :: rest => bytes < 16 ∧ isGroup group ∧ !ellipsis ∧ areGroups (bytes + 2) true rest
  | group :: rest => bytes < 16 ∧ isGroup group ∧ areGroups (bytes + 2) ellipsis rest

def isIPv6 (text : List Char) : Bool :=
  match text.splitOn ':' with
  | [[], [], []] => true
  | [] :: [] :: groups => areGroups 0 true groups
  | groups => areGroups 0 false groups

def isIP (text : String) : Bool := isIPv4 text.toList ∨ isIPv6 text.toList

example : ["10.0.0.1", "::", "::1", "1::", "fe80::1:2", "::ffff:10.0.0.1", "1:2:3:4:5:6:7:8", "1:2:3:4:5:6:7::"].map isIP =
    [true, true, true, true, true, true, true, true] := by decide +kernel

example : ["", "10.0.0", "10.0.0.256", "10.0.0.01", " ::1", "1:", ":1", "1::2::3", "1.2.3.4::", "1:2:3:4:5:6:7:8::", "fe80::1%eth0"].map isIP =
    [false, false, false, false, false, false, false, false, false, false, false] := by decide +kernel

/-! ### The characters of an address -/

def isAddressChar (c : Char) : Bool := Json.isHex c ∨ c = '.' ∨ c = ':'

theorem mem_intercalate {separator c : Char} {parts : List (List Char)} (member : c ∈ [separator].intercalate parts) :
    c = separator ∨ ∃ part ∈ parts, c ∈ part := by
  induction parts with
  | nil => simp at member
  | cons part parts ih =>
    cases parts with
    | nil => exact .inr ⟨part, List.mem_singleton.mpr rfl, by simpa using member⟩
    | cons next parts =>
      rw [List.intercalate_cons_cons, List.mem_append, List.mem_append, List.mem_singleton] at member
      rcases member with (inPart | same) | inRest
      · exact .inr ⟨part, List.mem_cons_self, inPart⟩
      · exact .inl same
      · refine (ih inRest).imp_right ?_
        rintro ⟨part, isPart, inPart⟩
        exact ⟨part, List.mem_cons_of_mem _ isPart, inPart⟩

theorem mem_splitOn (separator : Char) {c : Char} {text : List Char} (member : c ∈ text) :
    c = separator ∨ ∃ part ∈ text.splitOn separator, c ∈ part := by
  have joined : [separator].intercalate (text.splitOn separator) = text := List.intercalate_splitOn separator
  rw [← joined] at member
  exact mem_intercalate member

theorem addressChar_of_isIPv4 {text : List Char} (valid : isIPv4 text = true) {c : Char} (member : c ∈ text) :
    isAddressChar c = true := by
  simp only [isIPv4, Bool.decide_and, Bool.and_eq_true, decide_eq_true_eq, List.all_eq_true] at valid
  rcases mem_splitOn '.' member with same | ⟨octet, isPart, inOctet⟩
  · rw [same]
    decide
  · have digits := valid.2 octet isPart
    simp only [isOctet, decide_eq_true_eq, List.all_eq_true] at digits
    have digit := digits.2.1 c inOctet
    simp [isAddressChar, Json.isHex, digit]

theorem addressChar_of_isGroup {group : List Char} (valid : isGroup group = true) {c : Char} (member : c ∈ group) :
    isAddressChar c = true := by
  simp only [isGroup, decide_eq_true_eq, List.all_eq_true] at valid
  simp [isAddressChar, valid.2.2 c member]

theorem addressChar_of_areGroups {bytes : Nat} {ellipsis : Bool} {groups : List (List Char)}
    (valid : areGroups bytes ellipsis groups = true)
    {group : List Char} (isPart : group ∈ groups) {c : Char} (member : c ∈ group) : isAddressChar c = true := by
  fun_induction areGroups bytes ellipsis groups with
  | case1 => cases isPart
  | case2 bytes ellipsis last =>
    rw [List.mem_singleton.mp isPart] at member
    simp only [decide_eq_true_eq] at valid
    split at valid
    · exact addressChar_of_isGroup ‹_› member
    · exact addressChar_of_isIPv4 (by simp_all) member
  | case3 => cases valid
  | case4 bytes ellipsis first =>
    simp only [decide_eq_true_eq] at valid
    rcases List.mem_cons.mp isPart with same | empty
    · exact addressChar_of_isGroup valid.2.1 (same ▸ member)
    · have none : group = [] := by simpa using empty
      rw [none] at member
      cases member
  | case5 bytes ellipsis first rest _ _ ih =>
    simp only [decide_eq_true_eq] at valid
    rcases List.mem_cons.mp isPart with same | isNext
    · exact addressChar_of_isGroup valid.2.1 (same ▸ member)
    · rcases List.mem_cons.mp isNext with none | isRest
      · rw [none] at member
        cases member
      · exact ih valid.2.2.2 isRest
  | case6 bytes ellipsis first rest _ _ _ _ ih =>
    simp only [decide_eq_true_eq] at valid
    rcases List.mem_cons.mp isPart with same | isRest
    · exact addressChar_of_isGroup valid.2.1 (same ▸ member)
    · exact ih valid.2.2 isRest

theorem addressChar_of_isIPv6 {text : List Char} (valid : isIPv6 text = true) {c : Char} (member : c ∈ text) :
    isAddressChar c = true := by
  rcases mem_splitOn ':' member with same | ⟨group, isPart, inGroup⟩
  · rw [same]
    decide
  · unfold isIPv6 at valid
    split at valid
    next split =>
      have none : group = [] := by simpa [split] using isPart
      rw [none] at inGroup
      cases inGroup
    next groups _ split =>
      rw [split, List.mem_cons, List.mem_cons] at isPart
      rcases isPart with none | none | isPart
      · rw [none] at inGroup
        cases inGroup
      · rw [none] at inGroup
        cases inGroup
      · exact addressChar_of_areGroups valid isPart inGroup
    next => exact addressChar_of_areGroups valid isPart inGroup

/-- An address has no space in it. -/
theorem addressChar_of_isIP {text : String} (valid : isIP text = true) {c : Char} (member : c ∈ text.toList) :
    isAddressChar c = true := by
  simp only [isIP, decide_eq_true_eq] at valid
  exact valid.elim (addressChar_of_isIPv4 · member) (addressChar_of_isIPv6 · member)

end Address
