import Calls.Server.LeaveTimeouts
import Calls.Server.RecordKeys
import Calls.Server.RoomRuns

/-! The removals of the sessions of a node, over the calls that all nodes share. `removeSession`
sets the flag of its session; then it pushes the removal to the batcher of the channel, or goes
on to take the lock of the call itself. -/

set_option autoImplicit false

namespace Calls

structure SessionRemovals where
  ops : Operations
  node : NodeRecords
  /-- The sessions for which `removeSession` is about to take the lock of the call. -/
  locking : List Nat

inductive SessionRemovalStep where
  /-- What goes on in the calls, the locks that the batchers of the node take and give back with it. -/
  | room (step : RoomStep)
  /-- An item of a join on this node, and what became of it. -/
  | join (env : Env) (channelID : String) (req : JoinRequest) (added : Option Added)
  /-- `removeSession` until it returns or is to take the lock; the environment is the one at the time. -/
  | remove (env : Env) (us sessionsCount : Nat)
  | lock (env : Env) (us : Nat)
  /-- The lock is held by others for too long. -/
  | timedOut (us : Nat)
  /-- The next item of a batch of removals. -/
  | item (env : Env) (channelID : String)

def OperationStep.room (step : OperationStep) : RoomStep := .traffic (.call (.operation step))

def RoomStep.joining? : RoomStep → Option String
  | .traffic (.call (.operation (.join _ _ req))) => some req.connID
  | _ => none

def SessionObject.ref (object : SessionObject) : SessionRef := ⟨object.userID, object.originalConnID, object.connID⟩

def NodeRecords.knows (node : NodeRecords) (connID : String) : Bool := node.objects.any fun object => object.originalConnID = connID

namespace SessionRemovals

def idle : SessionRemovals := ⟨.idle, .empty, []⟩

/-- `removeSessionFromCall`, on the state of the batch that holds the lock. -/
def removeFromCall? (ids : Identities) (run : SessionRemovals) (env : Env) (us : Nat) : Option SessionRemovals :=
  (run.node.objects[us]?).bind fun object =>
    ((rooms ids).next? run.ops (OperationStep.leave env object.channelID object.ref).room).map fun ops =>
      { run with ops, node := run.node.removeSessionFromCall us }

def next? (ids : Identities) (run : SessionRemovals) : SessionRemovalStep → Option SessionRemovals
  | .room step =>
    -- A connection is one of this node, or not.
    if (step.joining?).any run.node.knows then none
    else ((rooms ids).next? run.ops step).map fun ops => { run with ops }
  | .join env channelID req added =>
    if run.node.knows req.connID ∨ run.ops.world.store.sessions.contains req.connID then none
    else
      ((rooms ids).next? run.ops (OperationStep.join env channelID req).room).map fun ops =>
        { run with ops, node := run.node.addSessionToCall env.nodeID ⟨req.userID, channelID, req.connID⟩ added }
  | .remove _ us sessionsCount =>
    (run.node.objects[us]?).map fun object =>
      -- The lock, if it is needed, is taken by a step of its own.
      match run.node.removeSession us object sessionsCount false with
      | (.lockFailed, node) => { run with node, locking := run.locking ++ [us] }
      | (_, node) => { run with node }
  | .lock env us =>
    if us ∈ run.locking then
      (run.node.objects[us]?).bind fun object =>
        ((rooms ids).next? run.ops (OperationStep.lock env object.channelID .leaving).room).bind fun ops =>
          let given := { run with ops, locking := run.locking.erase us }
          if (ops.batch? object.channelID .leaving).isNone then some given else given.removeFromCall? ids env us
    else none
  | .timedOut us => if us ∈ run.locking then some { run with locking := run.locking.erase us } else none
  | .item env channelID =>
    (run.node.popRemoval? channelID).bind fun popped => { run with node := popped.2 }.removeFromCall? ids env popped.1

end SessionRemovals

def sessionRemovals (ids : Identities) : System SessionRemovals SessionRemovalStep where
  init run := run = .idle
  next? := SessionRemovals.next? ids

namespace SessionRemovals

variable (run : SessionRemovals) (us : Nat)

/-- `removeSession` has been called for the session. -/
def Asked : Prop := ∃ object, run.node.objects[us]? = some object ∧ object.removed = true

/-- A call of `removeSession` is on its way to the lock, or has pushed the removal to a batcher. -/
def Pending : Prop := us ∈ run.locking ∨ run.node.Queues us

/-- The session is neither in `p.sessions` nor among the sessions of the call. -/
def Gone : Prop := run.node.Gone us ∧
  ∀ object, run.node.objects[us]? = some object → run.ops.world.store.sessions.contains object.originalConnID = false

/-- The lock of the call can be acquired, and the store works. -/
structure CanRemove (env : Env) : Prop where
  works : env.StoreWorks
  lock : env.lockFails = false
  free : ∀ object, run.node.objects[us]? = some object → run.ops.held.contains object.channelID = false

end SessionRemovals

/-- What a step has to leave behind. Where `removeSession` is called once more at a time when a removal can be
done, the session is gone, or is about to be removed; and what is run then removes it. -/
structure RemovalKept (run : SessionRemovals) (step : SessionRemovalStep) (after : SessionRemovals) : Prop where
  again : ∀ env us sessionsCount, step = .remove env us sessionsCount → run.Asked us → run.CanRemove us env →
    after.Pending us ∨ after.Gone us
  locked : ∀ env us, step = .lock env us → run.CanRemove us env → after.Gone us
  batched : ∀ env channelID us node, step = .item env channelID → run.node.popRemoval? channelID = some (us, node) →
    env.StoreWorks → after.Gone us

/-- The first call of `removeSession` for a session gets through: the batcher of the channel has room, or else the lock
is acquired; and the operations on the store succeed. A batch may fail to take its lock. -/
def RemovalsGetThrough (run : SessionRemovals) : SessionRemovalStep → Prop
  | .room step => (∃ env channelID kind, step = (OperationStep.lock env channelID kind).room) ∨ RoomServes run.ops step
  | .join env channelID req _ => RoomServes run.ops (OperationStep.join env channelID req).room
  | .remove _ us _ => ∀ object batcher, run.node.objects[us]? = some object → object.removed = false →
      run.node.removeSessionsBatchers.get? object.channelID = some batcher → batcher.items.length < batcher.size
  | .lock env _ => env.StoreWorks ∧ env.lockFails = false
  | .timedOut _ => False
  | .item env _ => env.StoreWorks

end Calls
