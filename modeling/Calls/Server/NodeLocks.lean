import Calls.Library.Locks

/-! The locks that the operations of one node take: the mutex of the plugin,
which guards its sessions and batchers, and the lock of a call. Only what an
operation does with the locks is left of it. -/

set_option autoImplicit false

namespace Calls

inductive NodeLock where
  /-- `p.mut` -/
  | mut
  | call (channelID : String)
  deriving DecidableEq

/-- The operations by what they were started for; a batch is run with the items pushed so far. -/
inductive NodeOperation where
  | reconnect (bot : Bool) (channelID : String)
  | join (channelID : String)
  | joinBatch (channelID : String) (items : Nat)
  | leave (channelID : String)
  | leaveBatch (channelID : String) (items : Nat)
  | clear

namespace NodeOperation

open LockProgram

/-- Within the process the lock of a call is waited for without a timeout. Once
there the lock in the store may still be missed, or the state fail to load. -/
def lockCall (channelID : String) (locked failed : LockProgram NodeLock) : LockProgram NodeLock :=
  acquire (.call channelID) (either locked (release (.call channelID) failed))

def unlockCall (channelID : String) : LockProgram NodeLock := release (.call channelID) done

/-- A section under the mutex, and what follows it. -/
def withMut (next : LockProgram NodeLock) : LockProgram NodeLock := acquire .mut (release .mut next)

/-- `handleReconnect`. The mutex is held while the jobs of the bot are updated. -/
def handleReconnect (bot : Bool) (channelID : String) : LockProgram NodeLock :=
  let finish := release .mut done
  let handleBotWSReconnect := lockCall channelID (release (.call channelID) finish) finish
  acquire .mut (either finish (if bot then handleBotWSReconnect else finish))

/-- The record of a session is kept if it could be added to the call. -/
def addSessionToCall (next : LockProgram NodeLock) : LockProgram NodeLock := either (withMut next) next

/-- The record of a session is dropped before the session is removed from the call. -/
def removeSessionFromCall (next : LockProgram NodeLock) : LockProgram NodeLock := withMut next

/-- An operation that is pushed to a batcher, or else run under the lock of its call. -/
def pushOrRun (channelID : String) (item : LockProgram NodeLock → LockProgram NodeLock) : LockProgram NodeLock :=
  acquire .mut
    (either (release .mut done) (release .mut (lockCall channelID (item (unlockCall channelID)) done)))

/-- A batch: the lock of the call is taken once for all items. -/
def runBatch (channelID : String) (item : LockProgram NodeLock → LockProgram NodeLock) (items : Nat) :
    LockProgram NodeLock :=
  lockCall channelID (items.repeat item (unlockCall channelID)) done

def program : NodeOperation → LockProgram NodeLock
  | reconnect bot channelID => handleReconnect bot channelID
  | join channelID => pushOrRun channelID addSessionToCall
  | joinBatch channelID items => runBatch channelID addSessionToCall items
  | leave channelID => pushOrRun channelID removeSessionFromCall
  | leaveBatch channelID items => runBatch channelID removeSessionFromCall items
  | clear => withMut done

end NodeOperation

/-- The operations of one node, started in any number and order. -/
def nodeLocks : System (List (Thread NodeLock)) (LockStep NodeOperation) := lockSystem NodeOperation.program

/-- No operation holds the mutex and waits for the lock of a call that another
one holds which waits for the mutex. -/
def NeverCrossed (threads : List (Thread NodeLock)) : Prop := ∀ channelID, ¬ Crossed threads .mut (.call channelID)

/-! ### Without reconnections of the bot -/

/-- The lock of a call comes before the mutex. -/
def NodeLock.Before (first second : NodeLock) : Prop := first ≠ .mut ∧ second = .mut

namespace NodeOperation

def IsUsers : NodeOperation → Prop
  | reconnect bot _ => bot = false
  | _ => True

/-- In order, and taking nothing but the mutex under the lock of the call. -/
structure Orderly (channelID : String) (program : LockProgram NodeLock) : Prop where
  climbs : program.Climbs NodeLock.Before
  under : ∀ other ∈ program.under (.call channelID), other = .mut

variable {channelID : String} {next : LockProgram NodeLock}

theorem unlockCall_orderly : Orderly channelID (unlockCall channelID) :=
  ⟨trivial, by simp [unlockCall, LockProgram.under]⟩

theorem withMut_climbs (orderly : next.Climbs NodeLock.Before) : (withMut next).Climbs NodeLock.Before :=
  ⟨by simp [LockProgram.under], orderly⟩

theorem withMut_orderly (orderly : Orderly channelID next) : Orderly channelID (withMut next) := by
  refine ⟨withMut_climbs orderly.climbs, fun other below => ?_⟩
  rcases List.mem_cons.mp below with rfl | later
  · rfl
  · exact orderly.under other (by simpa [LockProgram.under] using later)

theorem addSessionToCall_orderly (orderly : Orderly channelID next) : Orderly channelID (addSessionToCall next) := by
  refine ⟨⟨(withMut_orderly orderly).climbs, orderly.climbs⟩, fun other below => ?_⟩
  rcases List.mem_append.mp below with kept | failed
  · exact (withMut_orderly orderly).under other kept
  · exact orderly.under other failed

theorem lockCall_climbs (orderly : Orderly channelID next) :
    (lockCall channelID next .done).Climbs NodeLock.Before := by
  refine ⟨fun other below => ⟨by simp, orderly.under other ?_⟩, orderly.climbs, trivial⟩
  simpa [LockProgram.under] using below

theorem program_climbs {operation : NodeOperation} (users : operation.IsUsers) :
    operation.program.Climbs NodeLock.Before := by
  have pushed {item : LockProgram NodeLock → LockProgram NodeLock} {channelID : String}
      (orderly : Orderly channelID (item (unlockCall channelID))) :
      (pushOrRun channelID item).Climbs NodeLock.Before :=
    ⟨by simp [LockProgram.under], trivial, lockCall_climbs orderly⟩
  have batched {item : LockProgram NodeLock → LockProgram NodeLock} {channelID : String}
      (orderly : ∀ next, Orderly channelID next → Orderly channelID (item next)) (items : Nat) :
      (runBatch channelID item items).Climbs NodeLock.Before := by
    refine lockCall_climbs ?_
    induction items with
    | zero => exact unlockCall_orderly
    | succ items ih => exact orderly _ ih
  cases operation with
  | reconnect bot channelID =>
    rw [show bot = false from users]
    exact ⟨by simp [LockProgram.under], trivial, trivial⟩
  | join channelID => exact pushed (addSessionToCall_orderly unlockCall_orderly)
  | joinBatch channelID items => exact batched (fun _ => addSessionToCall_orderly) items
  | leave channelID => exact pushed (withMut_orderly unlockCall_orderly)
  | leaveBatch channelID items => exact batched (fun _ => withMut_orderly) items
  | clear => exact withMut_climbs trivial

end NodeOperation

/-- Joins, leaves and the reconnections of users alone all take the lock of a
call before the mutex. -/
theorem neverCrossed_of_users (threads : List (Thread NodeLock))
    (reached : (lockSystem fun operation : { operation : NodeOperation // operation.IsUsers } =>
      operation.val.program).Reachable threads) : NeverCrossed threads := by
  have asymm : ∀ first second : NodeLock, first.Before second → ¬ second.Before first :=
    fun first second before after => before.1 after.2
  have ordered (operation : { operation : NodeOperation // operation.IsUsers }) :
      operation.val.program.Climbs NodeLock.Before := NodeOperation.program_climbs operation.property
  exact fun channelID => (untangled_of_climbs asymm ordered reached).not_crossed .mut (.call channelID)

/-! ### With them -/

/-- A leave waits for the mutex while a reconnection of the bot, which was there
first, has the lock of the call. -/
def botThenLeave : List (LockStep NodeOperation) :=
  [.start (.reconnect true "channel"), .run 0, .choose 0 false, .run 0, .start (.leave "channel")]

/-- The bot reconnects while a leave that holds the lock of the call is about to
take the mutex: neither goes on. -/
def botMeetsLeave : List (LockStep NodeOperation) :=
  [.start (.leave "channel"), .run 0, .choose 0 false, .run 0, .run 0, .choose 0 true,
    .start (.reconnect true "channel"), .run 1, .choose 1 false]

end Calls
