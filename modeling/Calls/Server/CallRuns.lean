import Calls.Server.HostControls
import Calls.Server.Video

/-! Joins, leaves, changes of the host and messages about video as one system. -/

set_option autoImplicit false

namespace Calls

inductive CallStep where
  | operation (step : OperationStep)
  | changeHost (env : Env) (requesterID channelID newHostID : String)
  | video (env : Env) (us : UserSession) (msg : VideoMessage) (handlerID : String) (rtcSends : Bool)

/-- Which user a connection belongs to, and which user is the bot. -/
structure Identities where
  owner : String → String
  botID : String

namespace CallStep

def env? : CallStep → Option Env
  | .operation step => step.env?
  | .changeHost env _ _ _ | .video env _ _ _ _ => some env

/-- Sessions join and leave under the user of their connection, and the bot is known. -/
def authentic (ids : Identities) (step : CallStep) : Bool :=
  (step.env?.all fun env => env.botID = ids.botID) &&
    match step with
    | .operation (.join _ _ req) => ids.owner req.connID = req.userID
    | .operation (.leave _ _ ref) => ids.owner ref.originalConnID = ref.userID
    | _ => true

end CallStep

namespace Operations

/-- A request of its own, for which the lock of the channel has to be free. -/
def request (ops : Operations) (channelID : String) (handler : Handler Unit) : Option Operations :=
  if ops.held.contains channelID then none else some { ops with world := (handler ops.world).2 }

def call? (ops : Operations) : CallStep → Option Operations
  | .operation step => ops.next? step
  | .changeHost env requesterID channelID newHostID =>
    ops.request channelID (Calls.changeHost env requesterID channelID newHostID)
  | .video env us msg handlerID rtcSends =>
    ops.request us.channelID (handleClientMessageTypeVideo env us msg handlerID rtcSends)

end Operations

def callRuns (ids : Identities) : System Operations CallStep where
  init ops := ops = .idle
  next? ops step := if step.authentic ids then ops.call? step else none

/-- Every store operation of the step succeeds: none is made to fail, and a session
that is not in the call yet is not in another one either. -/
structure StoreServes (ops : Operations) (step : CallStep) : Prop where
  works : ∀ env, step.env? = some env → env.StoreWorks
  free : ∀ env channelID req state, step = .operation (.join env channelID req) →
    ops.batch? channelID .joining = some state → (∀ cs, state = some cs → cs.sessions.contains req.connID = false) →
    ops.world.store.sessions.contains req.connID = false

end Calls
