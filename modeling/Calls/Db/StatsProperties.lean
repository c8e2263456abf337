import Mathlib.Data.Finset.Max
import Calls.Db.Stats

/-! What the statistics count, and when it is every call of the last periods: the window of the
query is a period longer than the map where it starts inside one, and the limit keeps the first
periods of the order, not the last. -/

set_option autoImplicit false

namespace Calls

open Date (Periods)

/-! ### Instants and their days -/

theorem dayOf_mono {left right : Int} (le : left ≤ right) : dayOf left ≤ dayOf right := by
  unfold dayOf
  omega

theorem unixEpoch_le_today (now : Instant) : unixEpoch ≤ now.today := by
  have := now.unixMilli_pos
  unfold Instant.today dayOf
  omega

theorem Call.startSecond_eq {call : Call} (late : 0 ≤ call.startAt) : call.startSecond = call.startAt / 1000 :=
  Int.tdiv_eq_ediv_of_nonneg late

theorem Call.dayOf_startSecond {call : Call} (late : 0 ≤ call.startAt) : dayOf (call.startSecond * 1000) = dayOf call.startAt := by
  rw [Call.startSecond_eq late]
  unfold dayOf
  omega

/-- Before 1970 the second of a call is the one that follows. -/
theorem Call.startSecond_between {call : Call} (early : call.startAt < 0) :
    call.startAt ≤ call.startSecond * 1000 ∧ call.startSecond ≤ 0 := by
  have eq : call.startSecond = -(-call.startAt / 1000) := by
    rw [← Int.tdiv_eq_ediv_of_nonneg (by omega), Int.neg_tdiv, Int.neg_neg]
    rfl
  omega

theorem dayOf_addDate (now : Instant) (years months days : Int) :
    dayOf (now.addDate years months days) = ((Date.ofDays now.today).addDate years months days).toDays := by
  unfold dayOf Instant.addDate
  omega

/-! ### Maps filled from lists -/

theorem StringMap.get?_setAll {ν : Type} {m : StringMap ν} {keys : List String} {value : String → ν} {key : String} :
    (m.setAll (keys.map fun key => (key, value key))).get? key = if key ∈ keys then some (value key) else m.get? key := by
  unfold setAll
  induction keys generalizing m with
  | nil => rfl
  | cons first rest ih =>
    rw [List.map_cons, List.foldl_cons, ih, StringMap.get?_set]
    by_cases later : key ∈ rest
    · rw [if_pos later, if_pos (List.mem_cons_of_mem first later)]
    · rw [if_neg later]
      by_cases here : key = first
      · rw [if_pos here, here, if_pos List.mem_cons_self]
      · rw [if_neg here, if_neg fun member => (List.mem_cons.mp member).elim here later]

/-- Zeros for the recent periods. -/
def recentZeros (periods : Periods) (day : Nat → Nat) : StringMap Nat :=
  StringMap.setAll .empty ((periods.recent day).map fun key => (key, 0))

/-- A day of the month so many months ago, which is its first. -/
def monthAgo (now : Instant) (ago : Nat) : Nat := Date.firstOf ((Date.ofDays now.today).months - ago)

theorem genLast12MonthsMap_eq (now : Instant) : genLast12MonthsMap now = recentZeros Date.monthly (monthAgo now) := by
  unfold genLast12MonthsMap recentZeros Periods.recent
  rw [List.map_map]
  dsimp only
  refine congrArg (StringMap.setAll .empty) (List.map_congr_left fun ago _ => ?_)
  have month : (((Date.ofDays now.today).months : Int) + -ago).toNat = (Date.ofDays now.today).months - ago := by omega
  rw [Date.addDate_months, month]
  rfl

theorem last30DaysMap_eq (now : Instant) : last30DaysMap now = recentZeros Date.daily (now.today - ·) := by
  unfold last30DaysMap recentZeros Periods.recent
  rw [List.map_map]
  refine congrArg _ (List.map_congr_left fun ago _ => ?_)
  have day : ((now.today : Int) + -ago).toNat = now.today - ago := by omega
  rw [Date.addDate_days, day]
  rfl

theorem monthAgo_index (now : Instant) : ∀ back < Date.monthly.span,
    Date.monthly.index (monthAgo now back) + back = Date.monthly.index now.today := by
  intro back inside
  have recent : Date.monthly.index unixEpoch ≤ Date.monthly.index now.today := Date.monthly.mono (unixEpoch_le_today now)
  have epoch : Date.monthly.index unixEpoch = 23640 := by decide +kernel
  have span : Date.monthly.span = 12 := rfl
  have first : Date.monthly.index (monthAgo now back) = Date.monthly.index now.today - back := Date.months_firstOf _
  omega

theorem dayAgo_index (now : Instant) : ∀ back < Date.daily.span,
    Date.daily.index (now.today - back) + back = Date.daily.index now.today := by
  intro back inside
  have recent := unixEpoch_le_today now
  have epoch : unixEpoch = 719528 := rfl
  have span : Date.daily.span = 30 := rfl
  change now.today - back + back = now.today
  omega

/-! ### Windows and the periods they reach into -/

/-- The query groups by the periods, for calls from the last of them and the one before. -/
structure StatsQuery.Follows (query : StatsQuery) (periods : Periods) (now : Instant) : Prop where
  toChar : query.toChar = periods.toChar
  limit : query.limit = periods.span
  window : ∀ instant, query.since ≤ instant → periods.index now.today ≤ periods.index (dayOf instant) + periods.span

theorem getByMonthQueryBase_follows (now : Instant) : (getByMonthQueryBase now).Follows Date.monthly now where
  toChar := rfl
  limit := rfl
  window := by
    intro instant inside
    have reached : Date.monthly.index (dayOf (now.addDate 0 (-12) 0)) ≤ Date.monthly.index (dayOf instant) :=
      Date.monthly.mono (dayOf_mono inside)
    have first : Date.firstOf ((Date.ofDays now.today).months - 12) ≤ dayOf (now.addDate 0 (-12) 0) := by
      rw [dayOf_addDate]
      exact Date.firstOf_le_addDate _ _
    have least := Date.months_mono first
    rw [Date.months_firstOf] at least
    change (Date.ofDays now.today).months ≤ Date.monthly.index (dayOf instant) + 12
    have : (Date.ofDays now.today).months - 12 ≤ Date.monthly.index (dayOf (now.addDate 0 (-12) 0)) := least
    omega

theorem getByDayQueryBase_follows (now : Instant) : (getByDayQueryBase now).Follows Date.daily now where
  toChar := rfl
  limit := rfl
  window := by
    intro instant inside
    have reached : dayOf (now.addDate 0 0 (-30)) ≤ dayOf instant := dayOf_mono inside
    rw [dayOf_addDate, Date.addDate_days, Date.toDays_ofDays] at reached
    change now.today ≤ dayOf instant + 30
    omega

/-! ### What is to be counted -/

/-- The call is one of those that started in the period of the day. -/
def Call.startedIn (periods : Periods) (days : Nat) (call : Call) : Bool :=
  call.counted ∧ periods.index (dayOf call.startAt) = periods.index days

/-- The keys are those of the recent periods, and the values count the calls that started in each. -/
def CountsRecent (periods : Periods) (store : Store) (now : Instant) (result : Except String (StringMap Nat)) : Prop :=
  ∃ counts, result = .ok counts ∧
    (∀ key, counts.contains key = true ↔ ∃ days, periods.Recent now.today days ∧ periods.toChar (Date.ofDays days) = key) ∧
    ∀ days, periods.Recent now.today days →
      counts.get? (periods.toChar (Date.ofDays days)) = some (store.calls.rows.countP (Call.startedIn periods days))

/-- Only recent periods have calls since then; or all of them do, and what is written for them comes before the others. -/
def LimitFits (periods : Periods) (store : Store) (now : Instant) (since : Int) : Prop :=
  (∀ call ∈ store.calls, call.counted = true → since ≤ call.startAt → periods.Recent now.today (dayOf call.startAt)) ∨
    (∀ days, periods.Recent now.today days → ∃ call ∈ store.calls, since ≤ call.startAt ∧ call.startedIn periods days = true) ∧
    ∀ other ∈ store.calls, other.counted = true → since ≤ other.startAt → ¬ periods.Recent now.today (dayOf other.startAt) →
      ∀ days, periods.Recent now.today days → periods.toChar (Date.ofDays days) < periods.toChar (Date.ofDays (dayOf other.startAt))

/-- What the calls are like where those of a window are the calls of the recent periods. -/
structure WindowFits (periods : Periods) (store : Store) (now : Instant) (since : Int) : Prop where
  /-- Each started at a time that the database has. -/
  dated : ∀ call ∈ store.calls, call.counted = true → since ≤ call.startAt → call.startSecond < timestampEnd
  /-- None started before 1970 in the last second of a period. -/
  rounded : ∀ call ∈ store.calls, call.counted = true → since ≤ call.startAt →
    periods.index (dayOf (call.startSecond * 1000)) = periods.index (dayOf call.startAt)
  /-- No call of a recent period started before the window. -/
  started : ∀ call ∈ store.calls, call.counted = true → periods.Recent now.today (dayOf call.startAt) → since ≤ call.startAt
  limited : LimitFits periods store now since

/-- The call is one of those that the query counts in the period of the day. -/
def StatsQuery.countsIn (query : StatsQuery) (periods : Periods) (days : Nat) (call : Call) : Bool :=
  call.counted ∧ query.since ≤ call.startAt ∧ periods.index (dayOf (call.startSecond * 1000)) = periods.index days

theorem Call.startedIn_iff {periods : Periods} {days : Nat} {call : Call} :
    call.startedIn periods days = true ↔ call.counted = true ∧ periods.index (dayOf call.startAt) = periods.index days :=
  decide_eq_true_iff

theorem StatsQuery.countsIn_iff {query : StatsQuery} {periods : Periods} {days : Nat} {call : Call} :
    query.countsIn periods days call = true ↔ call.counted = true ∧ query.since ≤ call.startAt ∧
      periods.index (dayOf (call.startSecond * 1000)) = periods.index days :=
  decide_eq_true_iff

theorem StatsQuery.mem_selected {query : StatsQuery} {calls : List Call} {call : Call} :
    call ∈ query.selected calls ↔ call ∈ calls ∧ call.counted = true ∧ query.since ≤ call.startAt := by
  rw [StatsQuery.selected, List.mem_filter, decide_eq_true_eq]

/-! ### The map that is returned -/

theorem getByPeriod_eq {query : StatsQuery} {calls : List Call} {zeros : StringMap Nat} :
    getByPeriod query calls zeros =
      if ∃ call ∈ query.selected calls, timestampEnd ≤ call.startSecond then .error "failed to run query: timestamp out of range"
      else .ok (zeros.setAll ((((query.selected calls).map query.keyOf).grouped query.limit).map fun key =>
        (key, ((query.selected calls).map query.keyOf).count key))) := by
  unfold getByPeriod StatsQuery.select
  by_cases late : ∃ call ∈ query.selected calls, timestampEnd ≤ call.startSecond
  · rw [if_pos late, if_pos late]
    rfl
  · rw [if_neg late, if_neg late]

theorem recentZeros_get? {periods : Periods} {day : Nat → Nat} {key : String} :
    (recentZeros periods day).get? key = if key ∈ periods.recent day then some 0 else none := by
  rw [recentZeros, @StringMap.get?_setAll _ _ _ (fun _ => 0)]
  rfl

/-! ### What a query counts -/

section
variable {periods : Periods} {now : Instant} {query : StatsQuery} {store : Store}

/-- Where a query counts as many calls of the recent periods as there are, it counts none that started before. -/
theorem StatsQuery.started_of_counts
    (counts : ∀ days, periods.Recent now.today days →
      store.calls.rows.countP (query.countsIn periods days) = store.calls.rows.countP (Call.startedIn periods days))
    (rounded : ∀ call ∈ store.calls, call.counted = true → query.since ≤ call.startAt →
      periods.index (dayOf (call.startSecond * 1000)) = periods.index (dayOf call.startAt)) :
    ∀ call ∈ store.calls, call.counted = true → periods.Recent now.today (dayOf call.startAt) → query.since ≤ call.startAt := by
  intro call member counted recent
  have kept : ∀ other ∈ store.calls.rows, query.countsIn periods (dayOf call.startAt) other = true →
      other.startedIn periods (dayOf call.startAt) = true := by
    intro other rows selected
    obtain ⟨otherCounted, inside, same⟩ := StatsQuery.countsIn_iff.mp selected
    exact Call.startedIn_iff.mpr ⟨otherCounted, (rounded other rows otherCounted inside).symm.trans same⟩
  have selected := List.imp_of_countP_eq kept (counts _ recent) call member (Call.startedIn_iff.mpr ⟨counted, rfl⟩)
  exact (StatsQuery.countsIn_iff.mp selected).2.1

variable (follows : query.Follows periods now)
include follows

theorem StatsQuery.Follows.keyOf_eq (call : Call) :
    query.keyOf call = periods.toChar (Date.ofDays (dayOf (call.startSecond * 1000))) := by
  rw [StatsQuery.keyOf, follows.toChar]

theorem StatsQuery.Follows.count_keys (calls : List Call) (days : Nat) :
    ((query.selected calls).map query.keyOf).count (periods.toChar (Date.ofDays days)) = calls.countP (query.countsIn periods days) := by
  rw [List.count_eq_countP, List.countP_map, StatsQuery.selected, List.countP_filter]
  refine List.countP_congr fun call _ => ?_
  rw [Bool.and_eq_true, decide_eq_true_eq, Function.comp_apply, follows.keyOf_eq, beq_iff_eq, periods.toChar_inj, StatsQuery.countsIn_iff]
  tauto

/-- A call that the query does not count in its own period is counted in a later one, which is recent. -/
theorem StatsQuery.Follows.recent_of_rounded {call : Call} (inside : query.since ≤ call.startAt)
    (moved : periods.index (dayOf (call.startSecond * 1000)) ≠ periods.index (dayOf call.startAt)) :
    periods.index (dayOf call.startAt) < periods.index (dayOf (call.startSecond * 1000)) ∧
      periods.Recent now.today (dayOf (call.startSecond * 1000)) := by
  have early : call.startAt < 0 := by
    by_contra late
    exact moved (congrArg periods.index (Call.dayOf_startSecond (Int.not_lt.mp late)))
  obtain ⟨later, past⟩ := Call.startSecond_between early
  have le := periods.mono (dayOf_mono later)
  have present : periods.index (dayOf (call.startSecond * 1000)) ≤ periods.index now.today := by
    refine periods.mono (dayOf_mono ?_)
    have := now.unixMilli_pos
    omega
  have window := follows.window call.startAt inside
  refine ⟨by omega, present, by omega⟩

theorem StatsQuery.Follows.rounded_of_counts
    (counts : ∀ days, periods.Recent now.today days →
      store.calls.rows.countP (query.countsIn periods days) = store.calls.rows.countP (Call.startedIn periods days)) :
    ∀ call ∈ store.calls, call.counted = true → query.since ≤ call.startAt →
      periods.index (dayOf (call.startSecond * 1000)) = periods.index (dayOf call.startAt) := by
  by_contra some
  push Not at some
  obtain ⟨moved, member, counted, inside, differs⟩ := some
  -- In the period of the last call that is counted in a later one, its own calls and this one are counted.
  obtain ⟨last, lastMember, latest⟩ := Finset.exists_max_image (store.calls.rows.toFinset.filter fun call =>
    call.counted = true ∧ query.since ≤ call.startAt ∧
      periods.index (dayOf (call.startSecond * 1000)) ≠ periods.index (dayOf call.startAt)) Call.startAt
    ⟨moved, Finset.mem_filter.mpr ⟨List.mem_toFinset.mpr member, counted, inside, differs⟩⟩
  obtain ⟨listed, lastCounted, lastInside, lastDiffers⟩ := Finset.mem_filter.mp lastMember
  obtain ⟨later, recent⟩ := follows.recent_of_rounded lastInside lastDiffers
  have kept : ∀ call ∈ store.calls.rows, call.startedIn periods (dayOf (last.startSecond * 1000)) = true →
      query.countsIn periods (dayOf (last.startSecond * 1000)) call = true := by
    intro call rows own
    obtain ⟨callCounted, same⟩ := Call.startedIn_iff.mp own
    have after : last.startAt < call.startAt := by
      by_contra before
      have := periods.mono (dayOf_mono (Int.not_lt.mp before))
      omega
    have callInside : query.since ≤ call.startAt := Int.le_trans lastInside (Int.le_of_lt after)
    refine StatsQuery.countsIn_iff.mpr ⟨callCounted, callInside, ?_⟩
    rw [← same]
    by_contra callDiffers
    have := latest call (Finset.mem_filter.mpr ⟨List.mem_toFinset.mpr rows, callCounted, callInside, callDiffers⟩)
    omega
  have own := List.imp_of_countP_eq kept (counts _ recent).symm last (List.mem_toFinset.mp listed)
    (StatsQuery.countsIn_iff.mpr ⟨lastCounted, lastInside, rfl⟩)
  exact lastDiffers (Call.startedIn_iff.mp own).2.symm

/-- The query counts the calls of each recent period where it counts each call in its own, and none is before the window. -/
theorem StatsQuery.Follows.counts_iff :
    (∀ days, periods.Recent now.today days →
        store.calls.rows.countP (query.countsIn periods days) = store.calls.rows.countP (Call.startedIn periods days)) ↔
      (∀ call ∈ store.calls, call.counted = true → query.since ≤ call.startAt →
        periods.index (dayOf (call.startSecond * 1000)) = periods.index (dayOf call.startAt)) ∧
      ∀ call ∈ store.calls, call.counted = true → periods.Recent now.today (dayOf call.startAt) → query.since ≤ call.startAt := by
  constructor
  · intro counts
    have rounded := follows.rounded_of_counts counts
    exact ⟨rounded, StatsQuery.started_of_counts counts rounded⟩
  · intro fits days recent
    obtain ⟨rounded, started⟩ := fits
    refine List.countP_congr fun call member => ?_
    rw [StatsQuery.countsIn_iff, Call.startedIn_iff]
    constructor
    · intro selected
      obtain ⟨counted, inside, same⟩ := selected
      exact ⟨counted, (rounded call member counted inside).symm.trans same⟩
    · intro own
      obtain ⟨counted, same⟩ := own
      have inside : query.since ≤ call.startAt := started call member counted (periods.recent_congr same recent)
      exact ⟨counted, inside, (rounded call member counted inside).trans same⟩

/-- The groups are recent periods where the limit leaves out none of them. -/
theorem StatsQuery.Follows.groups_iff {day : Nat → Nat}
    (ago : ∀ back < periods.span, periods.index (day back) + back = periods.index now.today)
    (rounded : ∀ call ∈ store.calls, call.counted = true → query.since ≤ call.startAt →
      periods.index (dayOf (call.startSecond * 1000)) = periods.index (dayOf call.startAt)) :
    ((query.selected store.calls.rows).map query.keyOf).grouped query.limit ⊆ periods.recent day ↔
      LimitFits periods store now query.since := by
  have own : ∀ call ∈ query.selected store.calls.rows, query.keyOf call = periods.toChar (Date.ofDays (dayOf call.startAt)) := by
    intro call selected
    obtain ⟨member, counted, inside⟩ := StatsQuery.mem_selected.mp selected
    rw [follows.keyOf_eq]
    exact periods.toChar_inj.mpr (rounded call member counted inside)
  rw [List.map_congr_left own, List.grouped_subset_iff (Periods.length_recent.trans follows.limit.symm) (Periods.nodup_recent ago)]
  refine or_congr ?_ (and_congr ?_ ?_)
  · rw [List.forall_mem_map]
    simp only [KeyedTable.mem_def, StatsQuery.mem_selected, Periods.mem_recent ago, and_imp]
  · rw [Periods.forall_mem_recent ago]
    refine forall₂_congr fun days recent => ?_
    simp only [List.mem_map, StatsQuery.mem_selected, periods.toChar_inj, Call.startedIn_iff]
    exact exists_congr fun call => by tauto
  · rw [List.forall_mem_map]
    simp only [KeyedTable.mem_def, StatsQuery.mem_selected, Periods.mem_recent ago, Periods.forall_mem_recent ago, and_imp]

/-- Groups of recent periods only: each period has the count of its rows. -/
theorem StatsQuery.Follows.filled_get? {day : Nat → Nat} {keys : List String} {key : String}
    (subset : keys.grouped query.limit ⊆ periods.recent day) :
    ((recentZeros periods day).setAll ((keys.grouped query.limit).map fun key => (key, keys.count key))).get? key =
      if key ∈ periods.recent day then some (keys.count key) else none := by
  rw [StringMap.get?_setAll, recentZeros_get?]
  by_cases grouped : key ∈ keys.grouped query.limit
  · rw [if_pos grouped, if_pos (subset grouped)]
  · rw [if_neg grouped]
    by_cases recent : key ∈ periods.recent day
    · have unlisted : key ∉ keys := fun listed =>
        grouped (List.mem_grouped_of_subset (Periods.length_recent.trans follows.limit.symm) subset listed recent)
      rw [if_pos recent, if_pos recent, List.count_eq_zero.mpr unlisted]
    · rw [if_neg recent, if_neg recent]

theorem StatsQuery.Follows.counts_windowFits {day : Nat → Nat}
    (ago : ∀ back < periods.span, periods.index (day back) + back = periods.index now.today) :
    CountsRecent periods store now (getByPeriod query store.calls.rows (recentZeros periods day)) ↔
      WindowFits periods store now query.since := by
  rw [getByPeriod_eq]
  by_cases late : ∃ call ∈ query.selected store.calls.rows, timestampEnd ≤ call.startSecond
  · rw [if_pos late]
    obtain ⟨call, selected, out⟩ := late
    obtain ⟨member, counted, inside⟩ := StatsQuery.mem_selected.mp selected
    constructor
    · intro counts
      obtain ⟨_, failed, _⟩ := counts
      cases failed
    · intro fits
      exact absurd (fits.dated call member counted inside) (Int.not_lt.mpr out)
  rw [if_neg late]
  constructor
  · intro counts
    obtain ⟨filled, same, keys, values⟩ := counts
    obtain rfl := Except.ok.inj same
    have subset : ((query.selected store.calls.rows).map query.keyOf).grouped query.limit ⊆ periods.recent day := by
      intro key grouped
      refine (Periods.mem_recent_iff ago).mpr ((keys key).mp ?_)
      rw [StringMap.contains_eq_isSome, StringMap.get?_setAll, if_pos grouped]
      rfl
    have both := follows.counts_iff.mp fun days recent => by
      have value := values days recent
      rw [follows.filled_get? subset, if_pos ((Periods.mem_recent ago).mpr recent), follows.count_keys] at value
      exact Option.some.inj value
    exact {
      dated := fun call member counted inside => Int.not_le.mp fun out =>
        late ⟨call, StatsQuery.mem_selected.mpr ⟨member, counted, inside⟩, out⟩
      rounded := both.1
      started := both.2
      limited := (follows.groups_iff ago both.1).mp subset }
  · intro fits
    have subset := (follows.groups_iff ago fits.rounded).mpr fits.limited
    refine ⟨_, rfl, fun key => ?_, fun days recent => ?_⟩
    · rw [StringMap.contains_eq_isSome, follows.filled_get? subset, ← Periods.mem_recent_iff ago]
      split <;> simp_all
    · rw [follows.filled_get? subset, if_pos ((Periods.mem_recent ago).mpr recent), follows.count_keys,
        follows.counts_iff.mpr ⟨fits.rounded, fits.started⟩ days recent]

end

/-- Both maps count the calls of the last months and days where each window fits its periods. -/
theorem countsRecent_iff (store : Store) (now : Instant) :
    (CountsRecent Date.monthly store now (store.getCallsByMonth now) ↔
        WindowFits Date.monthly store now (now.addDate 0 (-12) 0)) ∧
      (CountsRecent Date.daily store now (store.getCallsByDay now) ↔
        WindowFits Date.daily store now (now.addDate 0 0 (-30))) := by
  constructor
  · rw [Store.getCallsByMonth, getByMonth, genLast12MonthsMap_eq]
    exact (getByMonthQueryBase_follows now).counts_windowFits (monthAgo_index now)
  · rw [Store.getCallsByDay, getByDay, last30DaysMap_eq]
    exact (getByDayQueryBase_follows now).counts_windowFits (dayAgo_index now)

theorem not_countsRecent_of_extra {periods : Periods} {store : Store} {now : Instant} {result : Except String (StringMap Nat)}
    (extra : Nat) (listed : result.toOption.any (·.contains (periods.toChar (Date.ofDays extra))) = true)
    (unwanted : ¬ periods.Recent now.today extra) : ¬ CountsRecent periods store now result := by
  intro counts
  obtain ⟨filled, rfl, keys, _⟩ := counts
  obtain ⟨days, recent, written⟩ := (keys _).mp listed
  exact unwanted (periods.recent_congr (periods.toChar_inj.mp written).symm recent)

/-- A call of an hour. -/
def hourOf (callID : String) (startAt : Int) : Call :=
  { id := callID, channelID := "town", startAt, endAt := startAt + 3600000, createAt := startAt, ownerID := "alice", props := .zero }

/-- The fifteenth of June 2024 at noon. -/
def juneNoon : Instant := OfNat.ofNat 1718452800000

/-- A call on the twentieth of June 2023, and one on the evening of the sixteenth of May 2024. -/
def olderCalls : Store :=
  { Store.empty with calls := (KeyedTable.empty.put (hourOf "older" 1687255200000)).put (hourOf "newer" 1715882400000) }

/-- The month a year ago and the day 30 days ago have keys too. -/
theorem not_countsRecent :
    ¬ CountsRecent Date.monthly olderCalls juneNoon (olderCalls.getCallsByMonth juneNoon) ∧
      ¬ CountsRecent Date.daily olderCalls juneNoon (olderCalls.getCallsByDay juneNoon) := by
  constructor
  · exact not_countsRecent_of_extra (dayOf 1687255200000) (by decide +kernel) (by decide +kernel)
  · exact not_countsRecent_of_extra (dayOf 1715882400000) (by decide +kernel) (by decide +kernel)

end Calls
