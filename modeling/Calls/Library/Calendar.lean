import Mathlib.Data.List.Nodup
import Mathlib.Data.Nat.Find
import Mathlib.Order.Monotone.Basic
import Mathlib.Tactic.IntervalCases

/-! Dates of the Gregorian calendar and how they are written. Days and months are counted from
the first of January of the year 0, which the calendar has as a leap year. -/

set_option autoImplicit false

structure Date where
  year : Nat
  month : Nat
  day : Nat
  deriving DecidableEq

namespace Date

def isLeap (year : Nat) : Bool := year % 4 = 0 ∧ (year % 100 ≠ 0 ∨ year % 400 = 0)

def daysBeforeYear (year : Nat) : Nat := 365 * year + (year + 3) / 4 + (year + 399) / 400 - (year + 99) / 100

/-- For the months from January to December, and for the one that follows. -/
def daysBeforeMonth (year month : Nat) : Nat :=
  [0, 0, 31, 59, 90, 120, 151, 181, 212, 243, 273, 304, 334, 365].getD month 0 + if isLeap year ∧ 2 < month then 1 else 0

/-- The month of a date among those of all years. -/
def months (date : Date) : Nat := 12 * date.year + (date.month - 1)

/-- The first day of a month. -/
def firstOf (months : Nat) : Nat := daysBeforeYear (months / 12) + daysBeforeMonth (months / 12) (months % 12 + 1)

def yearOf (days : Nat) : Nat := Nat.findGreatest (fun year => daysBeforeYear year ≤ days) (days / 365)

/-- The days of the year before a day. -/
def restOf (days : Nat) : Nat := days - daysBeforeYear (yearOf days)

def monthOf (days : Nat) : Nat := Nat.findGreatest (fun month => daysBeforeMonth (yearOf days) month ≤ restOf days) 12

def ofDays (days : Nat) : Date where
  year := yearOf days
  month := monthOf days
  day := restOf days - daysBeforeMonth (yearOf days) (monthOf days) + 1

def toDays (date : Date) : Nat := firstOf date.months + (date.day - 1)

/-- A day that its month does not have is one of a month that follows. -/
def addDate (date : Date) (years months days : Int) : Date :=
  let month := (date.months + 12 * years + months).toNat
  ofDays (firstOf month + (date.day - 1) + days).toNat

/-! ### Years and months one after the other -/

theorem daysBeforeMonth_thirteen (year : Nat) : daysBeforeMonth year 13 = 365 + if isLeap year then 1 else 0 := by
  simp [daysBeforeMonth]

theorem daysBeforeYear_succ (year : Nat) : daysBeforeYear (year + 1) = daysBeforeYear year + daysBeforeMonth year 13 := by
  have four : (year + 1 + 3) / 4 = (year + 3) / 4 + if year % 4 = 0 then 1 else 0 := by split <;> omega
  have hundred : (year + 1 + 99) / 100 = (year + 99) / 100 + if year % 100 = 0 then 1 else 0 := by split <;> omega
  have fourHundred : (year + 1 + 399) / 400 = (year + 399) / 400 + if year % 400 = 0 then 1 else 0 := by split <;> omega
  have fewer : (year + 99) / 100 ≤ (year + 3) / 4 := by omega
  have ofHundred : year % 400 = 0 → year % 100 = 0 := by omega
  have ofFour : year % 100 = 0 → year % 4 = 0 := by omega
  rw [daysBeforeMonth_thirteen]
  unfold daysBeforeYear isLeap
  rw [four, hundred, fourHundred]
  generalize (year + 3) / 4 = leaps at fewer ⊢
  generalize (year + 99) / 100 = centuries at fewer ⊢
  generalize (year + 399) / 400 = cycles
  by_cases cycle : year % 400 = 0
  · simp only [cycle, ofHundred cycle, ofFour (ofHundred cycle), ne_eq, not_true_eq_false, or_true, and_true, decide_true, if_true]
    omega
  · by_cases century : year % 100 = 0
    · simp only [cycle, century, ofFour century, ne_eq, not_true_eq_false, or_false, and_false, decide_false, if_true, if_false,
        Bool.false_eq_true]
      omega
    · by_cases leap : year % 4 = 0
      · simp only [cycle, century, leap, ne_eq, not_false_eq_true, true_or, and_true, decide_true, if_true, if_false]
        omega
      · simp only [cycle, century, leap, ne_eq, not_false_eq_true, true_or, and_true, decide_false, if_false, Bool.false_eq_true]
        omega

theorem le_daysBeforeYear (year : Nat) : 365 * year ≤ daysBeforeYear year := by
  unfold daysBeforeYear
  omega

theorem daysBeforeMonth_lt {year month : Nat} (first : 1 ≤ month) (last : month ≤ 12) :
    daysBeforeMonth year month < daysBeforeMonth year (month + 1) ∧
      daysBeforeMonth year (month + 1) ≤ daysBeforeMonth year month + 31 := by
  unfold daysBeforeMonth
  interval_cases month <;> simp <;> split <;> omega

/-- Of the month after December too, which is the January that follows. -/
theorem firstOf_eq {year month : Nat} (inside : month ≤ 12) :
    firstOf (12 * year + month) = daysBeforeYear year + daysBeforeMonth year (month + 1) := by
  unfold firstOf
  rcases Nat.lt_or_eq_of_le inside with before | rfl
  · rw [(by omega : (12 * year + month) / 12 = year), (by omega : (12 * year + month) % 12 = month)]
  · rw [(by omega : (12 * year + 12) / 12 = year + 1), (by omega : (12 * year + 12) % 12 = 0), daysBeforeYear_succ]
    simp [daysBeforeMonth]

theorem firstOf_strictMono : StrictMono firstOf := by
  apply strictMono_nat_of_lt_succ
  intro months
  have split : months = 12 * (months / 12) + months % 12 := by omega
  have inside : months % 12 < 12 := Nat.mod_lt months (by decide)
  rw [split, firstOf_eq (Nat.le_of_lt inside), Nat.add_assoc, firstOf_eq inside]
  exact Nat.add_lt_add_left (daysBeforeMonth_lt (Nat.succ_pos _) inside).1 _

/-! ### The date of a day -/

section
variable (days : Nat)

theorem daysBeforeYear_add_restOf : daysBeforeYear (yearOf days) + restOf days = days :=
  Nat.add_sub_of_le (@Nat.findGreatest_spec 0 (fun year => daysBeforeYear year ≤ days) _ _ (Nat.zero_le _) (Nat.zero_le _))

theorem restOf_lt : restOf days < daysBeforeMonth (yearOf days) 13 := by
  have sum := daysBeforeYear_add_restOf days
  have next := daysBeforeYear_succ (yearOf days)
  rcases Nat.lt_or_ge (days / 365) (yearOf days + 1) with above | below
  · have := le_daysBeforeYear (yearOf days + 1)
    omega
  · have := @Nat.findGreatest_is_greatest (yearOf days + 1) (fun year => daysBeforeYear year ≤ days) _ _ (Nat.lt_succ_self _) below
    omega

theorem daysBeforeMonth_one (year : Nat) : daysBeforeMonth year 1 = 0 := by
  simp [daysBeforeMonth]

theorem one_le_monthOf : 1 ≤ monthOf days :=
  Nat.le_findGreatest (by decide) (Nat.le_trans (Nat.le_of_eq (daysBeforeMonth_one _)) (Nat.zero_le _))

theorem monthOf_le : monthOf days ≤ 12 := Nat.findGreatest_le 12

theorem daysBeforeMonth_le : daysBeforeMonth (yearOf days) (monthOf days) ≤ restOf days :=
  @Nat.findGreatest_of_ne_zero _ (fun month => daysBeforeMonth (yearOf days) month ≤ restOf days) _ _ rfl
    (Nat.ne_of_gt (one_le_monthOf days))

theorem lt_daysBeforeMonth_succ : restOf days < daysBeforeMonth (yearOf days) (monthOf days + 1) := by
  rcases Nat.lt_or_eq_of_le (monthOf_le days) with before | last
  · exact Nat.lt_of_not_le (@Nat.findGreatest_is_greatest (monthOf days + 1)
      (fun month => daysBeforeMonth (yearOf days) month ≤ restOf days) _ _ (Nat.lt_succ_self _) before)
  · rw [last]
    exact restOf_lt days

theorem months_ofDays : (ofDays days).months = 12 * yearOf days + (monthOf days - 1) := rfl

theorem day_ofDays : (ofDays days).day = restOf days - daysBeforeMonth (yearOf days) (monthOf days) + 1 := rfl

theorem firstOf_months : firstOf (ofDays days).months = daysBeforeYear (yearOf days) + daysBeforeMonth (yearOf days) (monthOf days) := by
  have first := one_le_monthOf days
  have last := monthOf_le days
  rw [months_ofDays, firstOf_eq (by omega), Nat.sub_add_cancel first]

@[simp] theorem toDays_ofDays : (ofDays days).toDays = days := by
  have sum := daysBeforeYear_add_restOf days
  have le := daysBeforeMonth_le days
  rw [toDays, firstOf_months, day_ofDays]
  omega

theorem firstOf_le : firstOf (ofDays days).months ≤ days := by
  have := toDays_ofDays days
  unfold toDays at this
  omega

/-- A day is one of the month of its date. -/
theorem lt_firstOf_succ : days < firstOf ((ofDays days).months + 1) := by
  have first := one_le_monthOf days
  have sum := daysBeforeYear_add_restOf days
  have lt := lt_daysBeforeMonth_succ days
  rw [months_ofDays, Nat.add_assoc, Nat.sub_add_cancel first, firstOf_eq (monthOf_le days)]
  omega

theorem day_le : (ofDays days).day ≤ 31 := by
  have bound := (@daysBeforeMonth_lt (yearOf days) (monthOf days) (one_le_monthOf days) (monthOf_le days)).2
  have lt := lt_daysBeforeMonth_succ days
  rw [day_ofDays]
  omega

end

theorem months_mono {left right : Nat} (le : left ≤ right) : (ofDays left).months ≤ (ofDays right).months := by
  have lt : firstOf (ofDays left).months < firstOf ((ofDays right).months + 1) :=
    Nat.lt_of_le_of_lt (Nat.le_trans (firstOf_le left) le) (lt_firstOf_succ right)
  exact Nat.le_of_lt_succ (firstOf_strictMono.lt_iff_lt.mp lt)

@[simp] theorem months_firstOf (months : Nat) : (ofDays (firstOf months)).months = months := by
  have starts := firstOf_strictMono.le_iff_le.mp (firstOf_le (firstOf months))
  have ends := firstOf_strictMono.lt_iff_lt.mp (lt_firstOf_succ (firstOf months))
  omega

theorem addDate_days (days : Nat) (back : Int) : (ofDays days).addDate 0 0 back = ofDays (days + back).toNat := by
  have sum := toDays_ofDays days
  unfold toDays at sum
  have first : 1 ≤ (ofDays days).day := Nat.succ_pos _
  unfold addDate
  rw [Int.mul_zero, Int.add_zero, Int.add_zero, Int.toNat_natCast]
  have start : (firstOf (ofDays days).months : Int) + ((ofDays days).day - 1) = days := by omega
  dsimp only
  rw [start]

theorem addDate_months (date : Date) (back : Int) :
    { date with day := 1 }.addDate 0 back 0 = ofDays (firstOf (date.months + back).toNat) := by
  simp [addDate, months]

theorem firstOf_le_addDate (days back : Nat) : firstOf ((ofDays days).months - back) ≤ ((ofDays days).addDate 0 (-back) 0).toDays := by
  have first : 1 ≤ (ofDays days).day := Nat.succ_pos _
  have month : (((ofDays days).months : Int) + 12 * 0 + -back).toNat = (ofDays days).months - back := by omega
  unfold addDate
  rw [month, toDays_ofDays]
  omega

/-! ### How a date is written -/

/-- A number with zeros in front, unless it has as many digits. -/
def pad (width number : Nat) : String := String.ofList ((Nat.toDigits 10 number).leftpad width '0')

def formatMonth (date : Date) : String := pad 4 date.year ++ "-" ++ pad 2 date.month

def formatDay (date : Date) : String := date.formatMonth ++ "-" ++ pad 2 date.day

theorem pad_injective (width : Nat) : Function.Injective (pad width) := by
  intro left right same
  have value (number : Nat) : Nat.ofDigitChars 10 (pad width number).toList 0 = number := by
    rw [pad, String.toList_ofList, List.leftpad, Nat.ofDigitChars_append, Nat.ofDigitChars_replicate_zero,
      Nat.mul_zero, Nat.ofDigitChars_ten_toDigits]
  rw [← value left, ← value right, same]

theorem length_pad {number : Nat} (short : number < 100) : (pad 2 number).toList.length = 2 := by
  revert number
  decide +kernel

/-- What stands before a number of two digits, and the number, are read back. -/
theorem append_pad_inj {left right : String} {first second : Nat} (short : first < 100) (also : second < 100)
    (same : left ++ "-" ++ pad 2 first = right ++ "-" ++ pad 2 second) : left = right ∧ first = second := by
  have chars := congrArg String.toList same
  simp only [String.toList_append] at chars
  obtain ⟨front, back⟩ := List.append_inj' chars ((length_pad short).trans (length_pad also).symm)
  exact ⟨String.toList_inj.mp (List.append_cancel_right front), pad_injective 2 (String.toList_inj.mp back)⟩

theorem formatMonth_ofDays_inj {left right : Nat} :
    (ofDays left).formatMonth = (ofDays right).formatMonth ↔ (ofDays left).months = (ofDays right).months := by
  have small (days : Nat) : (ofDays days).month < 100 := Nat.lt_of_le_of_lt (monthOf_le days) (by decide)
  have first (days : Nat) : 1 ≤ (ofDays days).month := one_le_monthOf days
  have last (days : Nat) : (ofDays days).month ≤ 12 := monthOf_le days
  constructor
  · intro same
    obtain ⟨year, month⟩ := append_pad_inj (small left) (small right) same
    unfold months
    rw [pad_injective 4 year, month]
  · intro same
    unfold months at same
    have := first left
    have := first right
    have := last left
    have := last right
    have year : (ofDays left).year = (ofDays right).year := by omega
    have month : (ofDays left).month = (ofDays right).month := by omega
    rw [formatMonth, formatMonth, year, month]

theorem formatDay_ofDays_inj {left right : Nat} : (ofDays left).formatDay = (ofDays right).formatDay ↔ left = right := by
  constructor
  · intro same
    have small (days : Nat) : (ofDays days).day < 100 := Nat.lt_of_le_of_lt (day_le days) (by decide)
    obtain ⟨front, day⟩ := append_pad_inj (small left) (small right) same
    rw [← toDays_ofDays left, ← toDays_ofDays right, toDays, toDays, formatMonth_ofDays_inj.mp front, day]
  · intro same
    rw [same]

/-! ### Periods that a date is written for -/

/-- Days in periods that follow each other, each written its own way, and how many of them count as recent. -/
structure Periods where
  index : Nat → Nat
  mono : Monotone index
  toChar : Date → String
  toChar_inj : ∀ {left right}, toChar (ofDays left) = toChar (ofDays right) ↔ index left = index right
  span : Nat

def monthly : Periods where
  index days := (ofDays days).months
  mono _ _ := months_mono
  toChar := formatMonth
  toChar_inj := formatMonth_ofDays_inj
  span := 12

def daily : Periods where
  index := id
  mono := monotone_id
  toChar := formatDay
  toChar_inj := formatDay_ofDays_inj
  span := 30

namespace Periods

variable (periods : Periods) {today : Nat}

/-- The period of the day is that of today or one of those before it. -/
def Recent (today days : Nat) : Prop :=
  periods.index days ≤ periods.index today ∧ periods.index today < periods.index days + periods.span

instance (today days : Nat) : Decidable (periods.Recent today days) := inferInstanceAs (Decidable (_ ∧ _))

theorem recent_congr {left right : Nat} (same : periods.index left = periods.index right) (recent : periods.Recent today right) :
    periods.Recent today left := by
  unfold Recent
  rw [same]
  exact recent

/-- What is written for the recent periods, from a day of each. -/
def recent (day : Nat → Nat) : List String := (List.range periods.span).map fun ago => periods.toChar (ofDays (day ago))

section
variable {periods} {day : Nat → Nat} (ago : ∀ back < periods.span, periods.index (day back) + back = periods.index today)

theorem length_recent : (periods.recent day).length = periods.span := by
  rw [recent, List.length_map, List.length_range]

include ago

theorem nodup_recent : (periods.recent day).Nodup := by
  refine List.Nodup.map_on (fun left leftMember right rightMember same => ?_) List.nodup_range
  have leftBack := ago left (List.mem_range.mp leftMember)
  have rightBack := ago right (List.mem_range.mp rightMember)
  rw [periods.toChar_inj.mp same] at leftBack
  omega

theorem mem_recent {days : Nat} : periods.toChar (ofDays days) ∈ periods.recent day ↔ periods.Recent today days := by
  unfold recent Recent
  rw [List.mem_map]
  constructor
  · intro written
    obtain ⟨back, member, same⟩ := written
    have inside := List.mem_range.mp member
    have eq := periods.toChar_inj.mp same
    have := ago back inside
    omega
  · intro both
    refine ⟨periods.index today - periods.index days, List.mem_range.mpr (by omega), ?_⟩
    have := ago (periods.index today - periods.index days) (by omega)
    exact periods.toChar_inj.mpr (by omega)

theorem mem_recent_iff {key : String} :
    key ∈ periods.recent day ↔ ∃ days, periods.Recent today days ∧ periods.toChar (ofDays days) = key := by
  constructor
  · intro member
    obtain ⟨back, listed, rfl⟩ := List.mem_map.mp member
    exact ⟨day back, (mem_recent ago).mp member, rfl⟩
  · intro written
    obtain ⟨days, inside, rfl⟩ := written
    exact (mem_recent ago).mpr inside

theorem forall_mem_recent {holds : String → Prop} :
    (∀ key ∈ periods.recent day, holds key) ↔ ∀ days, periods.Recent today days → holds (periods.toChar (ofDays days)) := by
  constructor
  · intro all days inside
    exact all _ ((mem_recent ago).mpr inside)
  · intro all key member
    obtain ⟨days, inside, rfl⟩ := (mem_recent_iff ago).mp member
    exact all days inside

end

end Periods

example : (ofDays 738944).formatDay = "2023-02-28" := by decide +kernel

end Date
