import Mathlib.Data.List.Nodup
import Mathlib.Data.List.Basic
import Mathlib.Data.List.Perm.Subperm

/-! Finite tables with a unique key, as a database table under a primary key or
a map in memory. Rows keep the order in which they were added, so a listing of
a table is one of the orders a reader may see. -/

set_option autoImplicit false

/-- Rows of type `α` no two of which share a key. -/
structure KeyedTable {κ α : Type} (key : α → κ) where
  rows : List α
  nodup : (rows.map key).Nodup

namespace KeyedTable

variable {κ α : Type} {key : α → κ}

instance [DecidableEq α] : DecidableEq (KeyedTable key) := fun left right =>
  decidable_of_iff (left.rows = right.rows) (by cases left; cases right; simp)

instance : Membership α (KeyedTable key) := ⟨fun table row => row ∈ table.rows⟩

instance [DecidableEq α] (row : α) (table : KeyedTable key) : Decidable (row ∈ table) :=
  inferInstanceAs (Decidable (row ∈ table.rows))

theorem mem_def {row : α} {table : KeyedTable key} : row ∈ table ↔ row ∈ table.rows := Iff.rfl

@[ext] theorem ext {left right : KeyedTable key} (same : left.rows = right.rows) : left = right := by
  cases left; cases right; cases same; rfl

def empty : KeyedTable key := ⟨[], .nil⟩

@[simp] theorem rows_empty : (empty : KeyedTable key).rows = [] := rfl

@[simp] theorem not_mem_empty {row : α} : row ∉ (empty : KeyedTable key) := List.not_mem_nil

/-- A table known by what a function makes of its rows. -/
theorem exists_of_rows_map {β : Type} {table : KeyedTable key} {view : α → β} {values : List β} {value : β}
    (seen : table.rows.map view = values) (listed : value ∈ values) : ∃ row ∈ table, view row = value := by
  rw [← seen] at listed
  exact List.mem_map.mp listed

def size (table : KeyedTable key) : Nat := table.rows.length

theorem exists_mem_of_size {table : KeyedTable key} (filled : table.size ≠ 0) : ∃ row, row ∈ table :=
  List.exists_mem_of_ne_nil table.rows fun empty => filled (congrArg List.length empty)

theorem size_ne_zero_of_mem {table : KeyedTable key} {row : α} (member : row ∈ table) : table.size ≠ 0 := by
  intro empty
  rw [mem_def, List.eq_nil_of_length_eq_zero empty] at member
  cases member

/-- Rows are determined by their key. -/
theorem eq_of_key_eq {table : KeyedTable key} {left right : α}
    (leftMember : left ∈ table) (rightMember : right ∈ table) (same : key left = key right) :
    left = right :=
  List.inj_on_of_nodup_map table.nodup leftMember rightMember same

/-! ### Selection -/

/-- The rows that satisfy `keep`, as a table of their own. -/
def filter (table : KeyedTable key) (keep : α → Bool) : KeyedTable key :=
  ⟨table.rows.filter keep, table.nodup.sublist (List.filter_sublist.map key)⟩

@[simp] theorem rows_filter (table : KeyedTable key) (keep : α → Bool) :
    (table.filter keep).rows = table.rows.filter keep := rfl

@[simp] theorem mem_filter {table : KeyedTable key} {keep : α → Bool} {row : α} :
    row ∈ table.filter keep ↔ row ∈ table ∧ keep row = true := List.mem_filter

variable [DecidableEq κ]

def find? (table : KeyedTable key) (k : κ) : Option α :=
  table.rows.find? fun row => key row = k

def contains (table : KeyedTable key) (k : κ) : Bool := (table.find? k).isSome

theorem find?_eq_some_iff {table : KeyedTable key} {k : κ} {row : α} :
    table.find? k = some row ↔ row ∈ table ∧ key row = k := by
  constructor
  · intro found
    exact ⟨List.mem_of_find?_eq_some found, by simpa using List.find?_some found⟩
  · intro facts
    obtain ⟨member, rfl⟩ := facts
    cases found : table.find? (key row) with
    | none => simpa using List.find?_eq_none.mp found row member
    | some other =>
      have same : key other = key row := by simpa using List.find?_some found
      rw [eq_of_key_eq (List.mem_of_find?_eq_some found) member same]

theorem find?_eq_none_iff {table : KeyedTable key} {k : κ} :
    table.find? k = none ↔ ∀ row ∈ table, key row ≠ k := by
  simp [find?, mem_def]

/-- A loop over the rows, each of which changes what is read under its own key only. -/
theorem read_foldl {σ β : Type} {table : KeyedTable key} {step : σ → α → σ} {read : σ → β} {apply : α → β → β} {k : κ}
    (here : ∀ state row, key row = k → read (step state row) = apply row (read state))
    (elsewhere : ∀ state row, key row ≠ k → read (step state row) = read state) (state : σ) :
    read (table.rows.foldl step state) = (table.find? k).elim (read state) fun row => apply row (read state) := by
  obtain ⟨rows, nodup⟩ := table
  have skips (rest : List α) (state : σ) (others : ∀ row ∈ rest, key row ≠ k) : read (rest.foldl step state) = read state := by
    induction rest generalizing state with
    | nil => rfl
    | cons first rest ih =>
      rw [List.foldl_cons, ih _ fun row member => others row (List.mem_cons_of_mem _ member)]
      exact elsewhere state first (others first List.mem_cons_self)
  unfold find?
  dsimp only
  induction rows generalizing state with
  | nil => rfl
  | cons first rest ih =>
    rw [List.map_cons, List.nodup_cons] at nodup
    rw [List.foldl_cons, List.find?_cons]
    by_cases same : key first = k
    · rw [decide_eq_true same, skips rest]
      · exact here state first same
      · exact fun row member other => nodup.1 (List.mem_map.mpr ⟨row, member, other.trans same.symm⟩)
    · rw [decide_eq_false same, ih (step state first) nodup.2, elsewhere state first same]

theorem contains_iff {table : KeyedTable key} {k : κ} :
    table.contains k = true ↔ ∃ row ∈ table, key row = k := by
  rw [contains, Option.isSome_iff_exists]
  exact exists_congr fun row => find?_eq_some_iff

/-- A table has no more rows than one that has all of its keys. -/
theorem size_le_of_contains {left right : KeyedTable key} (subset : ∀ row ∈ left, right.contains (key row) = true) :
    left.size ≤ right.size := by
  have keys : left.rows.map key ⊆ right.rows.map key := by
    intro k listed
    obtain ⟨row, member, rfl⟩ := List.mem_map.mp listed
    obtain ⟨own, ownMember, same⟩ := contains_iff.mp (subset row member)
    exact List.mem_map.mpr ⟨own, ownMember, same⟩
  have fewer := (left.nodup.subperm keys).length_le
  rwa [List.length_map, List.length_map] at fewer

theorem contains_eq_false_iff {table : KeyedTable key} {k : κ} :
    table.contains k = false ↔ ∀ row ∈ table, key row ≠ k := by
  rw [contains, Option.isSome_eq_false_iff, Option.isNone_iff_eq_none, find?_eq_none_iff]

theorem find?_self {table : KeyedTable key} {row : α} (member : row ∈ table) :
    table.find? (key row) = some row := find?_eq_some_iff.mpr ⟨member, rfl⟩

/-! ### Insertion, as under a primary key: a taken key is refused -/

def insert? (table : KeyedTable key) (row : α) : Option (KeyedTable key) :=
  if fresh : table.contains (key row) = false then
    some ⟨table.rows ++ [row], by
      rw [List.map_append, List.nodup_append]
      refine ⟨table.nodup, by simp, ?_⟩
      intro before member after singleton same
      obtain ⟨previous, included, rfl⟩ := List.mem_map.mp member
      have equal : after = key row := by simpa using singleton
      exact contains_eq_false_iff.mp fresh previous included (same.trans equal)⟩
  else none

theorem insert?_eq_some {table extended : KeyedTable key} {row : α}
    (accepted : table.insert? row = some extended) :
    table.contains (key row) = false ∧ extended.rows = table.rows ++ [row] := by
  unfold insert? at accepted
  split at accepted
  · next fresh => cases accepted; exact ⟨fresh, rfl⟩
  · cases accepted

theorem insert?_eq_none_iff {table : KeyedTable key} {row : α} :
    table.insert? row = none ↔ table.contains (key row) = true := by
  unfold insert?
  split <;> simp_all

theorem insert?_fresh {table : KeyedTable key} {row : α} (fresh : table.contains (key row) = false) :
    ∃ extended, table.insert? row = some extended ∧ extended.rows = table.rows ++ [row] := by
  cases accepted : table.insert? row with
  | none => rw [insert?_eq_none_iff, fresh] at accepted; cases accepted
  | some extended => exact ⟨extended, rfl, (insert?_eq_some accepted).2⟩

theorem mem_insert? {table extended : KeyedTable key} {row other : α}
    (accepted : table.insert? row = some extended) :
    other ∈ extended ↔ other ∈ table ∨ other = row := by
  rw [mem_def, (insert?_eq_some accepted).2]
  simp [mem_def]

theorem find?_insert? {table extended : KeyedTable key} {row : α} (accepted : table.insert? row = some extended)
    (k : κ) : extended.find? k = if k = key row then some row else table.find? k := by
  obtain ⟨fresh, rows⟩ := insert?_eq_some accepted
  have none : table.find? (key row) = none := Option.isSome_eq_false_iff.mp fresh |> Option.isNone_iff_eq_none.mp
  unfold find? at none ⊢
  rw [rows, List.find?_append]
  split
  · next same => subst same; simp [none]
  · next other => simp [Ne.symm other]

/-- A selection of an extended table: the new row is added where it is selected. -/
theorem filter_insert? {table extended : KeyedTable key} {row : α} (accepted : table.insert? row = some extended)
    (keep : α → Bool) :
    (extended.filter keep).rows = (table.filter keep).rows ++ if keep row = true then [row] else [] := by
  rw [rows_filter, (insert?_eq_some accepted).2, List.filter_append, rows_filter]
  cases kept : keep row <;> simp [kept]

/-! ### Deletion -/

def erase (table : KeyedTable key) (k : κ) : KeyedTable key :=
  table.filter fun row => !decide (key row = k)

@[simp] theorem mem_erase {table : KeyedTable key} {k : κ} {row : α} :
    row ∈ table.erase k ↔ row ∈ table ∧ key row ≠ k := by simp [erase]

@[simp] theorem contains_erase_self {table : KeyedTable key} {k : κ} :
    (table.erase k).contains k = false :=
  contains_eq_false_iff.mpr fun _ member => (mem_erase.mp member).2

theorem erase_eq_self {table : KeyedTable key} {k : κ} (absent : table.contains k = false) :
    table.erase k = table := by
  apply ext
  rw [erase, rows_filter, List.filter_eq_self]
  intro row member
  simpa using contains_eq_false_iff.mp absent row member

@[simp] theorem find?_erase (table : KeyedTable key) (k other : κ) :
    (table.erase k).find? other = if other = k then none else table.find? other := by
  by_cases hit : other = k
  · rw [if_pos hit, find?_eq_none_iff]
    intro row member same
    exact (mem_erase.mp member).2 (same.trans hit)
  · rw [if_neg hit]
    cases found : table.find? other with
    | none =>
      rw [find?_eq_none_iff] at found ⊢
      exact fun row member => found row (mem_erase.mp member).1
    | some row =>
      rw [find?_eq_some_iff] at found ⊢
      exact ⟨mem_erase.mpr ⟨found.1, fun same => hit (found.2.symm.trans same)⟩, found.2⟩

/-- The rows are the one of a key and those that are left without it. -/
theorem perm_cons_erase {table : KeyedTable key} {row : α} (member : row ∈ table) :
    table.rows.Perm (row :: (table.erase (key row)).rows) := by
  have left : (table.erase (key row)).rows.Nodup := (table.erase (key row)).nodup.of_map
  refine (List.perm_ext_iff_of_nodup table.nodup.of_map ?_).mpr fun other => ?_
  · exact List.nodup_cons.mpr ⟨fun included => (mem_erase.mp included).2 rfl, left⟩
  · rw [List.mem_cons, ← mem_def, ← mem_def, mem_erase]
    refine ⟨fun included => ?_, ?_⟩
    · by_cases same : key other = key row
      · exact .inl (eq_of_key_eq included member same)
      · exact .inr ⟨included, same⟩
    · intro either
      rcases either with rfl | included
      · exact member
      · exact included.1

theorem filter_erase (table : KeyedTable key) (k : κ) (keep : α → Bool) :
    (table.erase k).filter keep = (table.filter keep).erase k := by
  apply ext
  simp [erase, List.filter_filter, Bool.and_comm]

/-! ### Update in place, as `UPDATE … WHERE id = k`: a missing key changes nothing -/

def modify (table : KeyedTable key) (k : κ) (change : α → α) (keeps : ∀ row, key (change row) = key row) :
    KeyedTable key :=
  ⟨table.rows.map fun row => if key row = k then change row else row, by
    have same : key ∘ (fun row => if key row = k then change row else row) = key := by
      funext row
      simp only [Function.comp_apply]
      split
      · exact keeps row
      · rfl
    rw [List.map_map, same]
    exact table.nodup⟩

theorem mem_modify {table : KeyedTable key} {k : κ} {change : α → α}
    {keeps : ∀ row, key (change row) = key row} {row : α} :
    row ∈ table.modify k change keeps ↔
      (row ∈ table ∧ key row ≠ k) ∨ ∃ previous ∈ table, key previous = k ∧ change previous = row := by
  simp only [mem_def, modify, List.mem_map]
  constructor
  · intro facts
    obtain ⟨previous, member, rfl⟩ := facts
    by_cases hit : key previous = k
    · rw [if_pos hit]; exact .inr ⟨previous, member, hit, rfl⟩
    · rw [if_neg hit]; exact .inl ⟨member, hit⟩
  · intro either
    rcases either with ⟨member, miss⟩ | ⟨previous, member, hit, rfl⟩
    · exact ⟨row, member, if_neg miss⟩
    · exact ⟨previous, member, if_pos hit⟩

@[simp] theorem size_modify (table : KeyedTable key) (k : κ) (change : α → α) (keeps : ∀ row, key (change row) = key row) :
    (table.modify k change keeps).size = table.size := List.length_map _

/-- What the change does not touch holds of the same rows as before. -/
theorem exists_mem_modify {table : KeyedTable key} {k : κ} {change : α → α} {keeps : ∀ row, key (change row) = key row}
    {holds : α → Prop} (blind : ∀ row, holds (change row) ↔ holds row) :
    (∃ row ∈ table.modify k change keeps, holds row) ↔ ∃ row ∈ table, holds row := by
  constructor
  · intro facts
    obtain ⟨row, member, held⟩ := facts
    rcases mem_modify.mp member with ⟨old, -⟩ | ⟨previous, old, -, rfl⟩
    · exact ⟨row, old, held⟩
    · exact ⟨previous, old, (blind previous).mp held⟩
  · intro facts
    obtain ⟨row, member, held⟩ := facts
    by_cases hit : key row = k
    · exact ⟨change row, mem_modify.mpr (.inr ⟨row, member, hit, rfl⟩), (blind row).mpr held⟩
    · exact ⟨row, mem_modify.mpr (.inl ⟨member, hit⟩), held⟩

theorem forall_mem_modify {table : KeyedTable key} {k : κ} {change : α → α} {keeps : ∀ row, key (change row) = key row}
    {holds : α → Prop} (blind : ∀ row, holds row → holds (change row)) (before : ∀ row ∈ table, holds row) :
    ∀ row ∈ table.modify k change keeps, holds row := by
  intro row member
  rcases mem_modify.mp member with ⟨old, -⟩ | ⟨previous, old, -, rfl⟩
  · exact before row old
  · exact blind previous (before previous old)

theorem find?_modify (table : KeyedTable key) (k other : κ) (change : α → α)
    (keeps : ∀ row, key (change row) = key row) :
    (table.modify k change keeps).find? other =
      if other = k then (table.find? other).map change else table.find? other := by
  have lookup : ∀ rows : List α,
      (rows.map fun row => if key row = k then change row else row).find? (fun row => key row = other) =
        if other = k then (rows.find? fun row => key row = other).map change
        else rows.find? fun row => key row = other := by
    intro rows
    induction rows with
    | nil => simp
    | cons row rows ih =>
      by_cases hit : key row = k <;> by_cases target : key row = other <;>
        by_cases same : other = k <;> simp_all
  exact lookup table.rows

theorem filter_modify (table : KeyedTable key) (k : κ) (change : α → α) (keeps : ∀ row, key (change row) = key row)
    (keep : α → Bool) (blind : ∀ row, keep (change row) = keep row) :
    (table.modify k change keeps).filter keep = (table.filter keep).modify k change keeps := by
  apply ext
  simp only [rows_filter, modify, List.filter_map]
  congr 1
  refine List.filter_congr fun row _ => ?_
  simp only [Function.comp_apply]
  split
  · exact blind row
  · rfl

theorem modify_eq_self {table : KeyedTable key} {k : κ} {change : α → α} {keeps : ∀ row, key (change row) = key row}
    (absent : table.contains k = false) : table.modify k change keeps = table := by
  apply ext
  refine (List.map_congr_left fun row member => ?_).trans (List.map_id _)
  exact if_neg (contains_eq_false_iff.mp absent row member)

theorem erase_modify (table : KeyedTable key) (k : κ) (change : α → α) (keeps : ∀ row, key (change row) = key row) :
    (table.modify k change keeps).erase k = table.erase k := by
  apply ext
  simp only [erase, rows_filter, modify, List.filter_map]
  have blind : ((fun row => !decide (key row = k)) ∘ fun row => if key row = k then change row else row) =
      fun row => !decide (key row = k) := by
    funext row
    simp only [Function.comp_apply]
    split
    · rw [keeps]
    · rfl
  rw [blind]
  refine (List.map_congr_left fun row member => if_neg ?_).trans (List.map_id _)
  simpa using (List.mem_filter.mp member).2

@[simp] theorem contains_modify (table : KeyedTable key) (k other : κ) (change : α → α)
    (keeps : ∀ row, key (change row) = key row) :
    (table.modify k change keeps).contains other = table.contains other := by
  rw [contains, find?_modify, contains]
  split <;> simp

/-! ### Assignment, as to a map entry: a taken key is overwritten in place -/

def put (table : KeyedTable key) (row : α) : KeyedTable key :=
  if taken : table.contains (key row) = true then
    ⟨table.rows.map fun previous => if key previous = key row then row else previous, by
      have same : key ∘ (fun previous => if key previous = key row then row else previous) = key := by
        funext previous
        simp only [Function.comp_apply]
        split
        · next hit => exact hit.symm
        · rfl
      rw [List.map_map, same]
      exact table.nodup⟩
  else
    ⟨table.rows ++ [row], by
      rw [List.map_append, List.nodup_append]
      refine ⟨table.nodup, by simp, ?_⟩
      intro before member after singleton same
      obtain ⟨previous, included, rfl⟩ := List.mem_map.mp member
      have equal : after = key row := by simpa using singleton
      exact taken (contains_iff.mpr ⟨previous, included, same.trans equal⟩)⟩

theorem mem_put {table : KeyedTable key} {row other : α} :
    other ∈ table.put row ↔ other = row ∨ (other ∈ table ∧ key other ≠ key row) := by
  unfold put
  split
  · next taken =>
    simp only [mem_def, List.mem_map]
    constructor
    · intro facts
      obtain ⟨previous, member, rfl⟩ := facts
      by_cases hit : key previous = key row
      · rw [if_pos hit]; exact .inl rfl
      · rw [if_neg hit]; exact .inr ⟨member, hit⟩
    · intro either
      rcases either with rfl | ⟨member, miss⟩
      · obtain ⟨previous, member, hit⟩ := contains_iff.mp taken
        exact ⟨previous, member, if_pos hit⟩
      · exact ⟨other, member, if_neg miss⟩
  · next absent =>
    simp only [mem_def, List.mem_append, List.mem_singleton]
    constructor
    · intro either
      rcases either with member | rfl
      · exact .inr ⟨member, contains_eq_false_iff.mp (by simpa using absent) other member⟩
      · exact .inl rfl
    · intro either
      rcases either with rfl | ⟨member, -⟩
      · exact .inr rfl
      · exact .inl member

theorem rows_put_fresh {table : KeyedTable key} {row : α} (fresh : table.contains (key row) = false) :
    (table.put row).rows = table.rows ++ [row] := by simp [put, fresh]

theorem size_put_fresh {table : KeyedTable key} {row : α} (fresh : table.contains (key row) = false) :
    (table.put row).size = table.size + 1 := by
  unfold size
  rw [rows_put_fresh fresh, List.length_append, List.length_singleton]

@[simp] theorem find?_put (table : KeyedTable key) (row : α) (k : κ) :
    (table.put row).find? k = if k = key row then some row else table.find? k := by
  by_cases hit : k = key row
  · subst hit
    rw [if_pos rfl, find?_eq_some_iff]
    exact ⟨mem_put.mpr (.inl rfl), rfl⟩
  · rw [if_neg hit]
    cases found : table.find? k with
    | none =>
      rw [find?_eq_none_iff] at found ⊢
      intro other member
      rcases mem_put.mp member with rfl | ⟨previous, -⟩
      · exact fun same => hit same.symm
      · exact found other previous
    | some other =>
      rw [find?_eq_some_iff] at found ⊢
      exact ⟨mem_put.mpr (.inr ⟨found.1, fun same => hit (found.2.symm.trans same)⟩), found.2⟩

end KeyedTable

/-- The least row of a listing under `before`, the first of several: what an
`ORDER BY … LIMIT 1` query returns. -/
def List.firstBy {α : Type} (before : α → α → Bool) : List α → Option α
  | [] => none
  | row :: rows =>
    match rows.firstBy before with
    | none => some row
    | some best => if before best row then some best else some row

theorem List.firstBy_mem {α : Type} {before : α → α → Bool} {rows : List α} {row : α}
    (first : rows.firstBy before = some row) : row ∈ rows := by
  induction rows with
  | nil => cases first
  | cons head tail ih =>
    simp only [firstBy] at first
    split at first
    · cases first; exact mem_cons_self
    · next best found =>
      split at first
      · cases first; exact mem_cons_of_mem _ (ih found)
      · cases first; exact mem_cons_self

theorem List.firstBy_eq_none_iff {α : Type} {before : α → α → Bool} {rows : List α} :
    rows.firstBy before = none ↔ rows = [] := by
  cases rows with
  | nil => simp [firstBy]
  | cons head tail =>
    simp only [firstBy, reduceCtorEq, iff_false]
    split
    · simp
    · split <;> simp
