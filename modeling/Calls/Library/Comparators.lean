import Mathlib.Data.List.Basic
import Mathlib.Data.Prod.Lex

/-! Comparators, which give the order of two elements as the sign of a number, and what is sorted by them. -/

set_option autoImplicit false

/-- Negative where the first of the two elements goes first, and zero where they are tied. -/
abbrev Comparator (α : Type) : Type := α → α → Int

namespace Comparator

variable {α κ : Type} [LinearOrder κ]

/-- A strict weak order of elements that are apart from each other, of which ties are the equivalence. -/
structure StrictWeakOn (cmp : Comparator α) (apart : α → α → Prop) : Prop where
  mirrored : ∀ a b, apart a b → (cmp a b < 0 ↔ 0 < cmp b a)
  trans : ∀ a b c, apart a b → apart b c → apart a c → cmp a b < 0 → cmp b c < 0 → cmp a c < 0
  tied_trans : ∀ a b c, apart a b → apart b c → apart a c → cmp a b = 0 → cmp b c = 0 → cmp a c = 0

/-- A number of which the sign is the order of the two. -/
structure SignOf (sign : Int) (x y : κ) : Prop where
  before : sign < 0 ↔ x < y
  behind : 0 < sign ↔ y < x

namespace SignOf

variable {ι : Type} [LinearOrder ι] {sign : Int} {x y : κ} {i j : ι}

theorem of_lt (lt : x < y) (negative : sign < 0) : SignOf sign x y where
  before := iff_of_true negative lt
  behind := iff_of_false negative.le.not_gt lt.le.not_gt

theorem of_gt (gt : y < x) (positive : 0 < sign) : SignOf sign x y where
  before := iff_of_false positive.le.not_gt gt.le.not_gt
  behind := iff_of_true positive gt

theorem refl : SignOf 0 x x where
  before := iff_of_false (lt_irrefl _) (lt_irrefl _)
  behind := iff_of_false (lt_irrefl _) (lt_irrefl _)

theorem sub (m n : Int) : SignOf (m - n) m n where
  before := by omega
  behind := by omega

theorem lex (signOf : SignOf sign x y) : SignOf sign (toLex (i, x)) (toLex (i, y)) where
  before := by simp [Prod.Lex.toLex_lt_toLex, signOf.before]
  behind := by simp [Prod.Lex.toLex_lt_toLex, signOf.behind]

theorem lex_of_lt (lt : i < j) (negative : sign < 0) : SignOf sign (toLex (i, x)) (toLex (j, y)) :=
  of_lt (Prod.Lex.toLex_lt_toLex.mpr (.inl lt)) negative

theorem lex_of_gt (gt : j < i) (positive : 0 < sign) : SignOf sign (toLex (i, x)) (toLex (j, y)) :=
  of_gt (Prod.Lex.toLex_lt_toLex.mpr (.inl gt)) positive

theorem eq_iff (signOf : SignOf sign x y) : sign = 0 ↔ x = y := by
  have before := signOf.before
  have behind := signOf.behind
  constructor
  · intro tied
    subst tied
    exact le_antisymm (not_lt.mp (mt behind.mpr (lt_irrefl _))) (not_lt.mp (mt before.mpr (lt_irrefl _)))
  · intro same
    subst same
    exact le_antisymm (not_lt.mp (mt behind.mp (lt_irrefl _))) (not_lt.mp (mt before.mp (lt_irrefl _)))

end SignOf

/-- Elements that are apart from each other are in the order of their keys. Others may go before one another. -/
structure Follows (cmp : Comparator α) (key : α → κ) (apart : α → α → Prop) : Prop where
  signOf : ∀ a b, apart a b → SignOf (cmp a b) (key a) (key b)
  behind : ∀ a b, 0 < cmp a b ↔ key b < key a

namespace Follows

variable {cmp : Comparator α} {key : α → κ} {apart : α → α → Prop}

theorem le_iff (follows : cmp.Follows key apart) (a b : α) : cmp a b ≤ 0 ↔ key a ≤ key b := by
  rw [← Int.not_lt, follows.behind, not_lt]

theorem strictWeakOn (follows : cmp.Follows key apart) : cmp.StrictWeakOn apart where
  mirrored a b different := by rw [(follows.signOf a b different).before, follows.behind b a]
  trans a b c ab bc ac first second := by
    rw [(follows.signOf _ _ ab).before] at first
    rw [(follows.signOf _ _ bc).before] at second
    exact (follows.signOf _ _ ac).before.mpr (first.trans second)
  tied_trans a b c ab bc ac first second := by
    rw [(follows.signOf _ _ ab).eq_iff] at first
    rw [(follows.signOf _ _ bc).eq_iff] at second
    exact (follows.signOf _ _ ac).eq_iff.mpr (first.trans second)

end Follows

/-! ### Sorting -/

/-- A result of sorting that no element goes before an earlier one of. -/
structure Sorts (cmp : Comparator α) (l sorted : List α) : Prop where
  perm : sorted.Perm l
  ordered : sorted.Pairwise fun a b => cmp a b ≤ 0

/-- The stable sort. -/
def sort (cmp : Comparator α) (l : List α) : List α := l.mergeSort fun a b => cmp a b ≤ 0

namespace Follows

variable {cmp : Comparator α} {key : α → κ} {apart : α → α → Prop}

theorem sorts (follows : cmp.Follows key apart) (l : List α) : cmp.Sorts l (cmp.sort l) where
  perm := List.mergeSort_perm l _
  ordered := by
    have ordered : (cmp.sort l).Pairwise fun a b => decide (cmp a b ≤ 0) = true := by
      refine List.pairwise_mergeSort ?_ ?_ l
      · intro a b c first second
        rw [decide_eq_true_iff, follows.le_iff] at first second ⊢
        exact first.trans second
      · intro a b
        rw [Bool.or_eq_true_iff, decide_eq_true_iff, decide_eq_true_iff, follows.le_iff, follows.le_iff]
        exact le_total _ _
    exact ordered.imp of_decide_eq_true

theorem pairwise_key (follows : cmp.Follows key apart) {l sorted : List α} (sorts : cmp.Sorts l sorted) :
    sorted.Pairwise fun a b => key a ≤ key b :=
  sorts.ordered.imp fun {a b} ordered => (follows.le_iff a b).mp ordered

end Follows

end Comparator

/-! ### Groups of a list in their order -/

section
variable {α ρ : Type}

theorem List.eq_filter_append_filter_not {p : α → Bool} {l : List α}
    (ordered : l.Pairwise fun a b => p b = true → p a = true) : l = l.filter p ++ l.filter fun a => !p a := by
  induction l with
  | nil => rfl
  | cons a l ih =>
    obtain ⟨first, rest⟩ := List.pairwise_cons.mp ordered
    cases holds : p a with
    | true =>
      rw [List.filter_cons_of_pos holds, List.filter_cons_of_neg (by simp [holds]), List.cons_append]
      exact congrArg (a :: ·) (ih rest)
    | false =>
      -- None of the elements behind it has the property either.
      have none : l.filter p = [] := by
        refine List.filter_eq_nil_iff.mpr fun b member found => ?_
        rw [first b member found] at holds
        cases holds
      have all : (l.filter fun b => !p b) = l := by
        refine List.filter_eq_self.mpr fun b member => ?_
        rw [Bool.not_eq_true', Bool.eq_false_iff]
        exact List.filter_eq_nil_iff.mp none b member
      rw [List.filter_cons_of_neg (by simp [holds]), List.filter_cons_of_pos (by simp [holds]), none, all]
      rfl

variable [DecidableEq ρ]

/-- A list of which no element is of an earlier group than one before it is the sequence of its groups. -/
theorem List.eq_flatMap_filter {group : α → ρ} {earlier : ρ → ρ → Prop} {groups : List ρ}
    (inOrder : groups.Pairwise earlier) (irrefl : ∀ g, ¬ earlier g g) {l : List α}
    (grouped : ∀ a ∈ l, group a ∈ groups) (ordered : l.Pairwise fun a b => ¬ earlier (group b) (group a)) :
    l = groups.flatMap fun g => l.filter (group · = g) := by
  induction groups generalizing l with
  | nil =>
    cases l with
    | nil => rfl
    | cons a l => exact absurd (grouped a List.mem_cons_self) List.not_mem_nil
  | cons g groups ih =>
    obtain ⟨first, rest⟩ := List.pairwise_cons.mp inOrder
    have leading : l.Pairwise fun a b => decide (group b = g) = true → decide (group a = g) = true := by
      refine ordered.imp_of_mem fun {a b} memberA _ ordered found => ?_
      rw [decide_eq_true_iff] at found ⊢
      rcases List.mem_cons.mp (grouped a memberA) with same | later
      · exact same
      · exact absurd (first _ later) (found ▸ ordered)
    have others : (l.filter fun a => !decide (group a = g)) = groups.flatMap fun h => l.filter (group · = h) := by
      refine (ih rest ?_ (ordered.filter _)).trans ?_
      · intro a member
        obtain ⟨member, other⟩ := List.mem_filter.mp member
        exact (List.mem_cons.mp (grouped a member)).resolve_left (by simpa using other)
      · refine List.flatMap_congr fun h later => ?_
        rw [List.filter_filter]
        refine List.filter_congr fun a _ => ?_
        by_cases same : group a = h
        · have other : h ≠ g := fun same => irrefl g (same ▸ first h later)
          simp [same, other]
        · simp [same]
    rw [List.flatMap_cons, ← others]
    exact List.eq_filter_append_filter_not leading

end
