import Calls.Server.Join
import Calls.Library.System

/-! The joins and leaves of all channels as one system. An operation holds the
lock of its channel from the moment it has loaded the state of the call until it
is through with its items; operations on other channels run in between. -/

set_option autoImplicit false

namespace Calls

inductive BatchKind where
  | joining
  | leaving
  deriving DecidableEq

/-- What the holder of a call lock works on. -/
structure Batch where
  kind : BatchKind
  state : Option CallState
  deriving DecidableEq

structure Operations where
  world : World
  held : StringMap Batch
  deriving DecidableEq

/-- One step, with what its environment is at the time. -/
inductive OperationStep where
  | lock (env : Env) (channelID : String) (kind : BatchKind)
  | join (env : Env) (channelID : String) (req : JoinRequest)
  | leave (env : Env) (channelID : String) (ref : SessionRef)
  | unlock (channelID : String)

namespace Operations

/-- Nothing has happened yet. -/
def idle : Operations := ⟨World.empty, .empty⟩

def holdBatch (ops : Operations) (channelID : String) (kind : BatchKind) (state : Option CallState)
    (world : World) : Operations :=
  ⟨world, ops.held.set channelID ⟨kind, state⟩⟩

theorem holdBatch_cases {ops : Operations} {channelID other : String} {kind : BatchKind} {state : Option CallState}
    {world : World} {batch : Batch}
    (found : (ops.holdBatch channelID kind state world).held.get? other = some batch) :
    other = channelID ∧ batch = ⟨kind, state⟩ ∨ other ≠ channelID ∧ ops.held.get? other = some batch := by
  unfold holdBatch at found
  rw [StringMap.get?_set] at found
  split at found
  · next here => exact .inl ⟨here, (Option.some.inj found).symm⟩
  · next elsewhere => exact .inr ⟨elsewhere, found⟩

/-- The batch running on the channel, if it is of the given kind. -/
def batch? (ops : Operations) (channelID : String) (kind : BatchKind) : Option (Option CallState) :=
  ((ops.held.get? channelID).filter (·.kind = kind)).map Batch.state

/-- Take the lock and load the call; without the lock nothing is run. -/
def lock (ops : Operations) (env : Env) (channelID : String) (kind : BatchKind) : Operations :=
  match lockCallReturnState env channelID ops.world with
  | (.ok state, world) => ops.holdBatch channelID kind state world
  | (.error _, world) => { ops with world }

/-- Run an item on the state that the item before it left. -/
def runItem (ops : Operations) (channelID : String) (kind : BatchKind)
    (item : Option CallState → Handler (Option CallState)) : Option Operations :=
  (ops.batch? channelID kind).map fun state =>
    match item state ops.world with
    | (.ok next, world) => ops.holdBatch channelID kind next world
    | (.error _, world) => { ops with world }

def next? (ops : Operations) : OperationStep → Option Operations
  | .lock env channelID kind =>
    if ops.held.contains channelID then none else some (ops.lock env channelID kind)
  | .join env channelID req => ops.runItem channelID .joining fun state => addSessionToCall env channelID state req
  | .leave env channelID ref =>
    ops.runItem channelID .leaving fun state => removeSessionFromCall env channelID state ref
  | .unlock channelID => some { ops with held := ops.held.erase channelID }

end Operations

/-- The joins and leaves from a store on which none is under way yet. -/
def operations (start : Store → Prop) : System Operations OperationStep where
  init ops := ops.held = .empty ∧ start ops.world.store
  next? := Operations.next?

def OperationStep.env? : OperationStep → Option Env
  | .lock env _ _ | .join env _ _ | .leave env _ _ => some env
  | .unlock _ => none

end Calls
