import Mathlib.Data.List.Chain

/-! Patterns that are a sequence of classes of letters, and the replacement of all their matches in a text. -/

set_option autoImplicit false

variable {α : Type}

structure ClassPattern (α : Type) where
  classes : List (α → Bool)
  nonempty : classes ≠ []

namespace ClassPattern

/-- One letter after another is of its class. -/
def classesMatch : List (α → Bool) → List α → Bool
  | [], _ => true
  | _ :: _, [] => false
  | isOf :: classes, c :: text => isOf c && classesMatch classes text

variable (pattern : ClassPattern α)

def matchesAt (text : List α) : Bool := classesMatch pattern.classes text

def length : Nat := pattern.classes.length

variable {pattern} in
theorem matchesAt_of_short {text : List α} (short : text.length < pattern.length) : pattern.matchesAt text = false := by
  have matched (classes : List (α → Bool)) (letters : List α) (found : classesMatch classes letters = true) :
      classes.length ≤ letters.length := by
    induction classes generalizing letters with
    | nil => exact Nat.zero_le _
    | cons isOf classes ih =>
      cases letters with
      | nil => cases found
      | cons c letters => exact Nat.succ_le_succ (ih letters (Bool.and_eq_true_iff.mp found).2)
  cases found : pattern.matchesAt text with
  | false => rfl
  | true => exact absurd (matched _ _ found) (Nat.not_le.mpr short)

/-- The rest of a text whose first letters belong to a match that has been replaced. -/
def replaceFrom (replace : List α → List α) : Nat → List α → List α
  | _, [] => []
  | skipped + 1, _ :: text => replaceFrom replace skipped text
  | 0, c :: text =>
    if pattern.matchesAt (c :: text) then
      replace ((c :: text).take pattern.length) ++ replaceFrom replace (pattern.length - 1) text
    else c :: replaceFrom replace 0 text

/-- The leftmost match is replaced, and then the leftmost one of what follows it. -/
def replaceAll (replace : List α → List α) (text : List α) : List α := pattern.replaceFrom replace 0 text

/-- No match begins within another one. -/
def Apart : Prop :=
  ∀ text : List α, pattern.matchesAt text = true → ∀ i, 0 < i → i < pattern.length → pattern.matchesAt (text.drop i) = false

end ClassPattern

/-! ### Marks in a text -/

/-- The text with a mark after each letter where it is cut. -/
def insertMarks (mark : α) (cut : List α → Bool) : List α → List α
  | [] => []
  | c :: text => if cut (c :: text) then c :: mark :: insertMarks mark cut text else c :: insertMarks mark cut text

section
variable {mark : α} {cut : List α → Bool}

theorem insertMarks_of_cut {c : α} {text : List α} (isCut : cut (c :: text) = true) :
    insertMarks mark cut (c :: text) = c :: mark :: insertMarks mark cut text := if_pos isCut

theorem insertMarks_of_not_cut {c : α} {text : List α} (whole : cut (c :: text) = false) :
    insertMarks mark cut (c :: text) = c :: insertMarks mark cut text := if_neg (by simp [whole])

theorem head?_insertMarks (text : List α) : (insertMarks mark cut text).head? = text.head? := by
  cases text with
  | nil => rfl
  | cons c text =>
    unfold insertMarks
    split <;> rfl

/-- A text that is not cut after its last letter ends with it. -/
theorem getLast?_insertMarks (ends : ∀ c, cut [c] = false) (text : List α) :
    (insertMarks mark cut text).getLast? = text.getLast? := by
  induction text with
  | nil => rfl
  | cons c text ih =>
    cases text with
    | nil => rw [insertMarks_of_not_cut (ends c)]; rfl
    | cons next text =>
      have filled : insertMarks mark cut (next :: text) ≠ [] := by
        intro empty
        have first : (insertMarks mark cut (next :: text)).head? = some next := head?_insertMarks (next :: text)
        rw [empty] at first
        cases first
      obtain ⟨first, rest, same⟩ := List.exists_cons_of_ne_nil filled
      rw [List.getLast?_cons_cons, ← ih]
      cases isCut : cut (c :: next :: text) with
      | true => rw [insertMarks_of_cut isCut, same, List.getLast?_cons_cons, List.getLast?_cons_cons]
      | false => rw [insertMarks_of_not_cut isCut, same, List.getLast?_cons_cons]

/-- Without the marks the text is as it was. -/
theorem filter_insertMarks {isMark : α → Bool} (marks : isMark mark = true) {text : List α}
    (unmarked : ∀ c ∈ text, isMark c = false) : (insertMarks mark cut text).filter (fun c => !isMark c) = text := by
  induction text with
  | nil => rfl
  | cons c text ih =>
    obtain ⟨letter, unmarked⟩ := List.forall_mem_cons.mp unmarked
    cases isCut : cut (c :: text) with
    | true => rw [insertMarks_of_cut isCut]; simp [letter, marks, ih unmarked]
    | false => rw [insertMarks_of_not_cut isCut]; simp [letter, ih unmarked]

/-- Of two letters that follow each other one is no mark. -/
theorem isChain_insertMarks {isMark : α → Bool} {text : List α} (unmarked : ∀ c ∈ text, isMark c = false) :
    (insertMarks mark cut text).IsChain fun left right => isMark left = false ∨ isMark right = false := by
  induction text with
  | nil => exact .nil
  | cons c text ih =>
    obtain ⟨letter, unmarked⟩ := List.forall_mem_cons.mp unmarked
    have rest := ih unmarked
    cases isCut : cut (c :: text) with
    | false =>
      rw [insertMarks_of_not_cut isCut]
      exact List.isChain_cons.mpr ⟨fun _ _ => .inl letter, rest⟩
    | true =>
      rw [insertMarks_of_cut isCut]
      refine List.isChain_cons.mpr ⟨fun _ _ => .inl letter, List.isChain_cons.mpr ⟨fun next first => .inr ?_, rest⟩⟩
      rw [head?_insertMarks] at first
      exact unmarked next (List.mem_of_mem_head? first)

theorem insertMarks_eq_flatMap_append (before text : List α) :
    insertMarks mark cut text = (text.zipIdx before.length).flatMap fun entry =>
      if cut ((before ++ text).drop entry.2) then [entry.1, mark] else [entry.1] := by
  induction text generalizing before with
  | nil => rfl
  | cons c text ih =>
    have rest := ih (before ++ [c])
    rw [List.length_append, List.length_singleton, List.append_assoc, List.singleton_append] at rest
    rw [List.zipIdx_cons, List.flatMap_cons, ← rest, List.drop_left]
    cases isCut : cut (c :: text) with
    | true => rw [insertMarks_of_cut isCut]; rfl
    | false => rw [insertMarks_of_not_cut isCut]; rfl

/-- The marks stand after the places at which the text is cut. -/
theorem insertMarks_eq_flatMap (text : List α) :
    insertMarks mark cut text =
      text.zipIdx.flatMap fun entry => if cut (text.drop entry.2) then [entry.1, mark] else [entry.1] :=
  insertMarks_eq_flatMap_append [] text

/-- Marks of two kinds of cuts can be put in at once, where those of the first do not change the cuts of the second. -/
theorem insertMarks_insertMarks {next : List α → Bool} (atMark : ∀ text, next (mark :: text) = false)
    (beforeMark : ∀ c text, next (c :: mark :: text) = false)
    (same : ∀ c text, cut (c :: text) = false → next (c :: insertMarks mark cut text) = next (c :: text)) (text : List α) :
    insertMarks mark next (insertMarks mark cut text) = insertMarks mark (fun rest => cut rest || next rest) text := by
  induction text with
  | nil => rfl
  | cons c text ih =>
    rw [insertMarks.eq_2 mark (fun rest => cut rest || next rest), ← ih]
    cases isCut : cut (c :: text) with
    | true =>
      rw [insertMarks_of_cut isCut, insertMarks_of_not_cut (beforeMark c _), insertMarks_of_not_cut (atMark _)]
      rfl
    | false =>
      rw [insertMarks_of_not_cut isCut, Bool.false_or, ← same c text isCut]
      rfl

end

namespace ClassPattern

variable {pattern : ClassPattern α}

theorem replaceFrom_eq_insertMarks (apart : pattern.Apart) (mark : α) (skipped : Nat) (text : List α)
    (unmatched : ∀ i, i < skipped → pattern.matchesAt (text.drop i) = false) :
    insertMarks mark pattern.matchesAt text =
      text.take skipped ++ pattern.replaceFrom (fun found => found.take 1 ++ mark :: found.drop 1) skipped text := by
  induction text generalizing skipped with
  | nil => cases skipped <;> rfl
  | cons c text ih =>
    cases skipped with
    | succ skipped =>
      have here : pattern.matchesAt (c :: text) = false := unmatched 0 (Nat.succ_pos _)
      rw [insertMarks_of_not_cut here, ih skipped fun i inside => unmatched (i + 1) (Nat.succ_lt_succ inside)]
      rfl
    | zero =>
      unfold replaceFrom
      cases here : pattern.matchesAt (c :: text) with
      | true =>
        have rest := ih (pattern.length - 1) fun i inside => apart _ here (i + 1) (Nat.succ_pos _) (by omega)
        obtain ⟨more, length⟩ := Nat.exists_eq_succ_of_ne_zero (mt List.length_eq_zero_iff.mp pattern.nonempty)
        have letters : pattern.length = more + 1 := length
        rw [insertMarks_of_cut here, rest, if_pos rfl, letters]
        simp
      | false =>
        rw [insertMarks_of_not_cut here, ih 0 (fun i inside => absurd inside (Nat.not_lt_zero i))]
        simp

/-- Where no match begins within another one, the replacement that puts a mark after the first letter of each match
puts one after each letter that a match begins with. -/
theorem replaceAll_eq_insertMarks (apart : pattern.Apart) (mark : α) (text : List α) :
    pattern.replaceAll (fun found => found.take 1 ++ mark :: found.drop 1) text = insertMarks mark pattern.matchesAt text :=
  (replaceFrom_eq_insertMarks apart mark 0 text fun i inside => absurd inside (Nat.not_lt_zero i)).symm

end ClassPattern
