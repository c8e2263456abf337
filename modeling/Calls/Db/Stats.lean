import Calls.Db.Store
import Calls.Library.Calendar
import Calls.Library.Grouping
import Mathlib.Data.String.Basic

/-! The calls of the last months and days, as the statistics count them: rows selected by a
window of time, grouped by what is written for their period, and put over a map of zeros.
The server and the database are both in UTC, and the query itself does not fail. -/

set_option autoImplicit false

namespace Calls

open Date (Periods)

/-- The first day of 1970. -/
def unixEpoch : Nat := 719528

/-- The day of an instant. Those before the year 0 are never asked for, and stand on its first day. -/
def dayOf (unixMilli : Int) : Nat := (unixMilli / 86400000 + unixEpoch).toNat

namespace Instant

def today (now : Instant) : Nat := dayOf now.unixMilli

/-- `now.AddDate(years, months, days).UnixMilli()`, which keeps the time of the day. -/
def addDate (now : Instant) (years months days : Int) : Int :=
  (((Date.ofDays now.today).addDate years months days).toDays - unixEpoch) * 86400000 + now.unixMilli % 86400000

end Instant

/-! ### The queries -/

/-- What the two base queries differ in. -/
structure StatsQuery where
  toChar : Date → String
  since : Int
  limit : Nat

def getByMonthQueryBase (now : Instant) : StatsQuery where
  toChar := Date.formatMonth
  since := now.addDate 0 (-12) 0
  limit := 12

def getByDayQueryBase (now : Instant) : StatsQuery where
  toChar := Date.formatDay
  since := now.addDate 0 0 (-30)
  limit := 30

/-- The first second past those that a timestamp of the database can be. -/
def timestampEnd : Int := 9224318016000

/-- `startat / 1000`: the division of integers drops the fraction, before 1970 too. -/
def Call.startSecond (call : Call) : Int := call.startAt.tdiv 1000

/-- A call that has ended after it started, and is not deleted. -/
def Call.counted (call : Call) : Bool := call.startAt < call.endAt ∧ call.deleteAt = 0

namespace StatsQuery

def selected (query : StatsQuery) (calls : List Call) : List Call :=
  calls.filter fun call => call.counted ∧ query.since ≤ call.startAt

/-- `to_char(to_timestamp(startat / 1000), …)`. -/
def keyOf (query : StatsQuery) (call : Call) : String := query.toChar (Date.ofDays (dayOf (call.startSecond * 1000)))

/-- The rows of a query are in the order of the texts, which are compared character by character. -/
def select (query : StatsQuery) (calls : List Call) : Except String (List (String × Nat)) :=
  if ∃ call ∈ query.selected calls, timestampEnd ≤ call.startSecond then .error "timestamp out of range"
  else
    let keys := (query.selected calls).map query.keyOf
    .ok ((keys.grouped query.limit).map fun key => (key, keys.count key))

end StatsQuery

/-- `m[key] = value` for each of the rows. -/
def StringMap.setAll {ν : Type} (m : StringMap ν) (rows : List (String × ν)) : StringMap ν :=
  rows.foldl (fun m row => m.set row.1 row.2) m

/-- The keys are made from the first day of the month, as `AddDate` may else skip a month. -/
def genLast12MonthsMap (now : Instant) : StringMap Nat :=
  let date := { Date.ofDays now.today with day := 1 }
  StringMap.setAll .empty ((List.range 12).map fun i : Nat => ((date.addDate 0 (-i) 0).formatMonth, 0))

def last30DaysMap (now : Instant) : StringMap Nat :=
  StringMap.setAll .empty ((List.range 30).map fun i : Nat => (((Date.ofDays now.today).addDate 0 0 (-i)).formatDay, 0))

/-- The rows of the query over a map of zeros. -/
def getByPeriod (query : StatsQuery) (calls : List Call) (zeros : StringMap Nat) : Except String (StringMap Nat) :=
  match query.select calls with
  | .error err => .error ("failed to run query: " ++ err)
  | .ok rows => .ok (zeros.setAll rows)

def getByMonth (query : StatsQuery) (calls : List Call) (now : Instant) : Except String (StringMap Nat) :=
  getByPeriod query calls (genLast12MonthsMap now)

def getByDay (query : StatsQuery) (calls : List Call) (now : Instant) : Except String (StringMap Nat) :=
  getByPeriod query calls (last30DaysMap now)

namespace Store

def getCallsByMonth (store : Store) (now : Instant) : Except String (StringMap Nat) :=
  getByMonth (getByMonthQueryBase now) store.calls.rows now

def getCallsByDay (store : Store) (now : Instant) : Except String (StringMap Nat) :=
  getByDay (getByDayQueryBase now) store.calls.rows now

end Store

end Calls
