import Mathlib.Data.List.Dedup
import Mathlib.Data.List.Sort

/-! Rows grouped by a key in the order of the keys, with a limit on the groups. The groups are
those of a wanted set of keys where no other key comes before the limit is reached. -/

set_option autoImplicit false

namespace List

variable {κ : Type} [LinearOrder κ]

/-- The keys of `GROUP BY key ORDER BY key LIMIT limit`, for the keys of the rows. -/
def grouped (keys : List κ) (limit : Nat) : List κ := (keys.dedup.insertionSort (· ≤ ·)).take limit

theorem grouped_sorted (keys : List κ) : (keys.dedup.insertionSort (· ≤ ·)).Pairwise (· < ·) := by
  have sorted : (keys.dedup.insertionSort (· ≤ ·)).Pairwise (· ≤ ·) := pairwise_insertionSort _ _
  have nodup : (keys.dedup.insertionSort (· ≤ ·)).Nodup := (perm_insertionSort _ _).nodup_iff.mpr (nodup_dedup keys)
  exact (sorted.and nodup).imp fun both => lt_of_le_of_ne both.1 both.2

theorem mem_sorted_dedup {keys : List κ} {key : κ} : key ∈ keys.dedup.insertionSort (· ≤ ·) ↔ key ∈ keys :=
  (perm_insertionSort _ _).mem_iff.trans mem_dedup

theorem nodup_grouped (keys : List κ) (limit : Nat) : (keys.grouped limit).Nodup :=
  ((grouped_sorted keys).imp fun less => ne_of_lt less).sublist (take_sublist _ _)

theorem mem_of_mem_grouped {keys : List κ} {limit : Nat} {key : κ} (member : key ∈ keys.grouped limit) : key ∈ keys :=
  mem_sorted_dedup.mp (mem_of_mem_take member)

/-- The keys that the limit leaves out come after those of the groups. -/
theorem lt_of_not_mem_grouped {keys : List κ} {limit : Nat} {key other : κ} (member : key ∈ keys.grouped limit)
    (listed : other ∈ keys) (left : other ∉ keys.grouped limit) : key < other := by
  have sorted := grouped_sorted keys
  rw [← take_append_drop limit (keys.dedup.insertionSort (· ≤ ·))] at sorted
  have split := mem_sorted_dedup.mpr listed
  rw [← take_append_drop limit (keys.dedup.insertionSort (· ≤ ·))] at split
  exact (pairwise_append.mp sorted).2.2 key member other ((mem_append.mp split).resolve_left left)

/-- There are as many groups as the limit allows where it leaves out a key. -/
theorem length_grouped {keys : List κ} {limit : Nat} {other : κ} (listed : other ∈ keys) (left : other ∉ keys.grouped limit) :
    (keys.grouped limit).length = limit := by
  unfold grouped at left ⊢
  by_cases short : (keys.dedup.insertionSort (· ≤ ·)).length ≤ limit
  · rw [take_of_length_le short] at left
    exact absurd (mem_sorted_dedup.mpr listed) left
  · rw [length_take]
    omega

/-- Two counts of the same rows agree where one counts every row of the other and no more. -/
theorem imp_of_countP_eq {α : Type} {rows : List α} {less more : α → Bool} (imp : ∀ row ∈ rows, less row → more row)
    (same : rows.countP less = rows.countP more) : ∀ row ∈ rows, more row → less row := by
  induction rows with
  | nil => exact fun row member => absurd member not_mem_nil
  | cons first rest ih =>
    have tail : ∀ row ∈ rest, less row → more row := fun row member => imp row (mem_cons_of_mem first member)
    have le : rest.countP less ≤ rest.countP more := countP_mono_left tail
    have head := imp first mem_cons_self
    rw [countP_cons, countP_cons] at same
    intro row member counted
    cases lessFirst : less first with
    | true =>
      rw [head lessFirst, if_pos rfl, lessFirst, if_pos rfl, Nat.add_right_cancel_iff] at same
      rcases mem_cons.mp member with rfl | later
      · exact lessFirst
      · exact ih tail same row later counted
    | false =>
      rw [lessFirst, if_neg Bool.false_ne_true] at same
      cases moreFirst : more first with
      | true =>
        rw [moreFirst, if_pos rfl] at same
        omega
      | false =>
        rw [moreFirst, if_neg Bool.false_ne_true] at same
        rcases mem_cons.mp member with rfl | later
        · rw [moreFirst] at counted
          cases counted
        · exact ih tail same row later counted

section
variable {keys wanted : List κ} {limit : Nat} (length : wanted.length = limit)
include length

theorem perm_of_grouped_subset {key : κ} (subset : keys.grouped limit ⊆ wanted) (listed : key ∈ keys)
    (left : key ∉ keys.grouped limit) : (keys.grouped limit).Perm wanted :=
  (subperm_of_subset (nodup_grouped keys limit) subset).perm_of_length_le (by rw [length, length_grouped listed left])

/-- Among groups all of wanted keys, no wanted key of the rows is missing. -/
theorem mem_grouped_of_subset {key : κ} (subset : keys.grouped limit ⊆ wanted) (listed : key ∈ keys) (member : key ∈ wanted) :
    key ∈ keys.grouped limit := by
  by_contra left
  exact left ((perm_of_grouped_subset length subset listed left).mem_iff.mpr member)

theorem grouped_subset_iff (nodup : wanted.Nodup) :
    keys.grouped limit ⊆ wanted ↔
      (∀ key ∈ keys, key ∈ wanted) ∨
        (∀ key ∈ wanted, key ∈ keys) ∧ ∀ other ∈ keys, other ∉ wanted → ∀ key ∈ wanted, key < other := by
  constructor
  · intro subset
    by_cases all : ∀ key ∈ keys, key ∈ wanted
    · exact .inl all
    push Not at all
    obtain ⟨other, listed, unwanted⟩ := all
    have perm := perm_of_grouped_subset length subset listed fun member => unwanted (subset member)
    refine .inr ⟨fun key member => mem_of_mem_grouped (perm.mem_iff.mpr member), ?_⟩
    intro other listed unwanted key member
    exact lt_of_not_mem_grouped (perm.mem_iff.mpr member) listed fun grouped => unwanted (perm.mem_iff.mp grouped)
  · intro either key grouped
    rcases either with all | ⟨present, later⟩
    · exact all key (mem_of_mem_grouped grouped)
    · by_contra unwanted
      -- Every wanted key comes before this one, so that all of them and this one are groups.
      have covers : wanted ⊆ keys.grouped limit := by
        intro other member
        by_contra left
        exact lt_asymm (later key (mem_of_mem_grouped grouped) unwanted other member)
          (lt_of_not_mem_grouped grouped (present other member) left)
      have perm : wanted.Perm (keys.grouped limit) :=
        (subperm_of_subset nodup covers).perm_of_length_le (by rw [length]; exact length_take_le _ _)
      exact unwanted (perm.mem_iff.mpr grouped)

end

end List
