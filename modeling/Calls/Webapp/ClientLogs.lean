import Calls.Library.BoundedLogs
import Calls.Library.System

/-! The logs of the client: what is logged is kept in memory until it is flushed to the persistent storage, where
the oldest part of it makes room for what is new. -/

set_option autoImplicit false

namespace Calls.Webapp

/-- A text in its units of 16 bits, which are what its length counts. -/
abbrev LogText : Type := List UInt16

/-- The units of a text of ASCII characters. -/
def logText (text : String) : LogText := text.toList.map fun c => c.toNat.toUInt16

/-- White space, which is trimmed. -/
def isSpaceUnit (unit : UInt16) : Bool :=
  unit ∈ [0x9, 0xa, 0xb, 0xc, 0xd, 0x20, 0xa0, 0x1680, 0x2028, 0x2029, 0x202f, 0x205f, 0x3000, 0xfeff] ∨
    (0x2000 ≤ unit ∧ unit ≤ 0x200a)

def maxAccumulatedLogSize : Nat := 1024 * 1024

def truncationMarker : LogText := logText "[... older logs truncated ...]\n\n"

def accumulatedLog : BoundedLog UInt16 where
  limit := maxAccumulatedLogSize
  slack := 50
  marker := truncationMarker
  marker_le := by decide
  slack_lt := by decide

/-! ### Entries -/

def maxArgLength : Nat := 256

/-- An argument of a log call, with what `String` makes of it, which throws for some objects. -/
inductive LogArg where
  | error (message : LogText)
  /-- An object, with what `JSON.stringify` makes of it unless it throws or gives nothing. -/
  | object (json : Option LogText) (text : Option LogText)
  | other (text : LogText)

def formatArg : LogArg → Option LogText
  | .error message => some message
  | .object (some s) _ => some (if s.length > maxArgLength then s.take (maxArgLength - 3) ++ logText "..." else s)
  | .object none text => text
  | .other text => some text

inductive LogLevel where
  | error
  | warn
  | info
  | debug
  deriving DecidableEq

def LogLevel.text : LogLevel → LogText
  | error => logText "error"
  | warn => logText "warn"
  | info => logText "info"
  | debug => logText "debug"

/-- What is logged at a time, if all arguments have a text. -/
def logEntry (level : LogLevel) (time : LogText) (args : List LogArg) : Option LogText :=
  (args.mapM formatArg).map fun texts =>
    level.text ++ logText " [" ++ time ++ logText "] " ++ (logText " ").intercalate texts ++ logText "\n"

/-- What statistics are logged as, which are given by their JSON. -/
def statsEntry (stats : LogText) : LogText := logText "--- Call Stats ---\n" ++ (stats ++ logText "\n") ++ logText "---\n\n"

/-! ### Flushing -/

/-- The logs in memory and what the persistent storage has. -/
structure ClientLogs where
  clientLogs : LogText := []
  stored : Option LogText := none
  deriving DecidableEq

namespace ClientLogs

def getClientLogs (logs : ClientLogs) : LogText := logs.stored.getD []

/-- Nothing is logged where an argument has no text. -/
def appendClientLog (logs : ClientLogs) (level : LogLevel) (time : LogText) (args : List LogArg) : ClientLogs :=
  { logs with clientLogs := logs.clientLogs ++ (logEntry level time args).getD [] }

/-- The logs in memory stay where the storage is full and throws. -/
def flushLogsToAccumulated (logs : ClientLogs) (stats : Option LogText) (takesItem : Bool) : ClientLogs :=
  let clientLogs := logs.clientLogs ++ (stats.map statsEntry).getD []
  if clientLogs.all isSpaceUnit then { logs with clientLogs }
  else if takesItem then { clientLogs := [], stored := some (accumulatedLog.append logs.getClientLogs clientLogs) }
  else { logs with clientLogs }

end ClientLogs

inductive LogStep where
  | log (level : LogLevel) (time : LogText) (args : List LogArg)
  | flush (stats : Option LogText) (takesItem : Bool)
  /-- The page is loaded again, without what was in memory. -/
  | reload

/-- All that was logged, and what of it had been logged when it was flushed last. -/
structure LogHistory where
  logged : LogText := []
  flushed : LogText := []
  deriving DecidableEq

/-- What a step adds to the history. What is lost with the page was no part of it. -/
def LogHistory.note (history : LogHistory) : LogStep → LogHistory
  | .log level time args => { history with logged := history.logged ++ (logEntry level time args).getD [] }
  | .flush stats takesItem =>
    let logged := history.logged ++ (stats.map statsEntry).getD []
    { logged, flushed := if takesItem then logged else history.flushed }
  | .reload => { history with logged := history.flushed }

def clientLogs : System ClientLogs LogStep where
  init logs := logs = {}
  next? logs
    | .log level time args => some (logs.appendClientLog level time args)
    | .flush stats takesItem => some (logs.flushLogsToAccumulated stats takesItem)
    | .reload => some { logs with clientLogs := [] }

/-- The logs with their history. -/
def loggedRuns : System (ClientLogs × LogHistory) LogStep := clientLogs.observed {} fun history _ label _ => history.note label

/-! ### What is in memory -/

/-- There is nothing, or something that is not white space. -/
def HasText (text : LogText) : Prop := text = [] ∨ text.all isSpaceUnit = false

theorem HasText.append {text more : LogText} (hasText : HasText text) (hasMore : HasText more) : HasText (text ++ more) := by
  rcases hasText with rfl | visible
  · exact hasMore
  · right
    rw [List.all_append, visible, Bool.false_and]

theorem HasText.eq_nil {text : LogText} (hasText : HasText text) (blank : text.all isSpaceUnit = true) : text = [] := by
  rcases hasText with empty | visible
  · exact empty
  · rw [blank] at visible
    cases visible

theorem hasText_logEntry (level : LogLevel) (time : LogText) (args : List LogArg) : HasText ((logEntry level time args).getD []) := by
  unfold logEntry
  cases args.mapM formatArg with
  | none => exact .inl rfl
  | some texts =>
    right
    have visible : level.text.all isSpaceUnit = false := by
      cases level <;> decide
    simp only [Option.map_some, Option.getD_some, List.all_append, visible, Bool.false_and]

theorem hasText_stats (stats : Option LogText) : HasText ((stats.map statsEntry).getD []) := by
  cases stats with
  | none => exact .inl rfl
  | some stats =>
    right
    have visible : (logText "--- Call Stats ---\n").all isSpaceUnit = false := by decide
    simp only [statsEntry, Option.map_some, Option.getD_some, List.all_append, visible, Bool.false_and]

/-! ### What is stored -/

/-- The stored log is that of the history up to the last flush, and the rest of the history is in memory. -/
structure Accumulates (state : ClientLogs × LogHistory) : Prop where
  logged : state.2.logged = state.2.flushed ++ state.1.clientLogs
  hasText : HasText state.1.clientLogs
  retains : accumulatedLog.Retains state.2.flushed state.1.getClientLogs
  bounded : state.1.getClientLogs.length ≤ maxAccumulatedLogSize

theorem Accumulates.log {logs : ClientLogs} {history : LogHistory} (accumulates : Accumulates (logs, history)) (level : LogLevel)
    (time : LogText) (args : List LogArg) :
    Accumulates (logs.appendClientLog level time args, history.note (.log level time args)) where
  logged := by
    have logged : history.logged = history.flushed ++ logs.clientLogs := accumulates.logged
    simp only [ClientLogs.appendClientLog, LogHistory.note, logged, List.append_assoc]
  hasText := accumulates.hasText.append (hasText_logEntry level time args)
  retains := accumulates.retains
  bounded := accumulates.bounded

theorem Accumulates.flush {logs : ClientLogs} {history : LogHistory} (accumulates : Accumulates (logs, history)) (stats : Option LogText)
    (takesItem : Bool) : Accumulates (logs.flushLogsToAccumulated stats takesItem, history.note (.flush stats takesItem)) := by
  have logged : history.logged ++ (stats.map statsEntry).getD [] =
      history.flushed ++ (logs.clientLogs ++ (stats.map statsEntry).getD []) := by
    rw [accumulates.logged, List.append_assoc]
  have hasText := accumulates.hasText.append (hasText_stats stats)
  unfold ClientLogs.flushLogsToAccumulated LogHistory.note
  dsimp only at hasText ⊢
  generalize logs.clientLogs ++ (stats.map statsEntry).getD [] = memory at logged hasText ⊢
  rw [logged]
  by_cases blank : memory.all isSpaceUnit = true
  · -- There is nothing to flush, so that all has been flushed already.
    have none := hasText.eq_nil blank
    subst none
    rw [if_pos blank, List.append_nil, ite_self]
    exact ⟨(List.append_nil _).symm, .inl rfl, accumulates.retains, accumulates.bounded⟩
  · rw [if_neg blank]
    cases takesItem with
    | false => exact ⟨rfl, hasText, accumulates.retains, accumulates.bounded⟩
    | true => exact ⟨(List.append_nil _).symm, .inl rfl, accumulates.retains.append, BoundedLog.length_append_le⟩

theorem accumulates_of_reachable {state : ClientLogs × LogHistory} (reached : loggedRuns.Reachable state) : Accumulates state := by
  refine reached.invariant ?_ ?_
  · rintro ⟨logs, history⟩ ⟨rfl, rfl⟩
    exact ⟨rfl, .inl rfl, .inl rfl, Nat.zero_le _⟩
  · rintro ⟨logs, history⟩ label ⟨after, later⟩ accumulates taken
    obtain ⟨next, noted⟩ := System.observed_next?.mp taken
    cases noted
    cases label with
    | log level time args =>
      cases next
      exact accumulates.log level time args
    | flush stats takesItem =>
      cases next
      exact accumulates.flush stats takesItem
    | reload =>
      cases next
      exact ⟨(List.append_nil _).symm, .inl rfl, accumulates.retains, accumulates.bounded⟩

/-- After each flush the stored log is bounded, and it is all that was logged, or the marker and all that was logged after some point. -/
theorem stored_of_flush {before after : ClientLogs × LogHistory} {stats : Option LogText} {takesItem : Bool}
    (reached : loggedRuns.Reachable before) (flushed : loggedRuns.next? before (.flush stats takesItem) = some after) :
    after.1.getClientLogs.length ≤ maxAccumulatedLogSize ∧
      accumulatedLog.Retains after.2.flushed after.1.getClientLogs ∧ (takesItem = true → after.2.flushed = after.2.logged) := by
  have accumulates := accumulates_of_reachable (.step reached flushed)
  refine ⟨accumulates.bounded, accumulates.retains, ?_⟩
  rintro rfl
  rw [(System.observed_next?.mp flushed).2]
  rfl

def joinedCall : LogStep :=
  .log .info (logText "2024-01-01T00:00:00.000Z") [.other (logText "joined"), .object none (some (logText "call"))]

def loggedJoin : ClientLogs × LogHistory :=
  (ClientLogs.appendClientLog {} .info (logText "2024-01-01T00:00:00.000Z") [.other (logText "joined"), .object none (some (logText "call"))],
    LogHistory.note {} joinedCall)

theorem stored_of_flush_loggedJoin : ∃ after : ClientLogs × LogHistory,
    loggedRuns.next? loggedJoin (.flush none true) = some after ∧
      after.1.getClientLogs = logText "info [2024-01-01T00:00:00.000Z] joined call\n" ∧
      after.1.getClientLogs.length ≤ maxAccumulatedLogSize ∧
      accumulatedLog.Retains after.2.flushed after.1.getClientLogs ∧ (true = true → after.2.flushed = after.2.logged) := by
  have start : loggedRuns.Reachable ({}, {}) := .init ⟨rfl, rfl⟩
  have logged : loggedRuns.next? ({}, {}) joinedCall = some loggedJoin := rfl
  refine ⟨(loggedJoin.1.flushLogsToAccumulated none true, loggedJoin.2.note (.flush none true)), rfl, ?_, ?_⟩
  · decide +kernel
  · exact stored_of_flush (start.step logged) rfl

end Calls.Webapp
