import Calls.Server.Join
import Calls.Server.JobsProperties
import Calls.Library.System
import Calls.Server.SessionProperties
import Calls.Server.LeaveProperties
import Calls.Server.JoinProperties
import Calls.Server.Operations
import Calls.Server.OperationsProperties
import Calls.Server.OngoingCalls
import Calls.Server.SyncedCalls
import Calls.Server.OccupiedCalls
import Calls.Server.Screen
import Calls.Server.ScreenProperties
import Calls.Server.Sharer
import Calls.Library.Timeline
import Calls.Server.ScreenTime
import Calls.Server.Nodes
import Calls.Server.NodesProperties
import Calls.Server.ReconnectIsolation
import Calls.Library.Locks
import Calls.Server.NodeLocks
import Calls.Server.OpenJobs
import Calls.Server.EndingJobs
import Calls.Server.CoupledJobs
import Calls.Server.Recordings
import Calls.Server.JobRequests
import Calls.Server.BotSessions
import Calls.Server.RunningJobs
import Calls.Server.HostControls
import Calls.Server.Video
import Calls.Server.CallRuns
import Calls.Server.CallRunsProperties
import Calls.Server.Hosts
import Calls.Server.NamedHosts
import Calls.Server.VideoTime
import Calls.Cluster.Mutex
import Calls.Cluster.MutexRuns
import Calls.Cluster.ExpiredHolders
import Calls.Server.CallLocks
import Calls.Server.RecordKeys
import Calls.Server.Roaming
import Calls.Server.RoamingProperties
import Calls.Server.RoamingRuns
import Calls.Batching.Batcher
import Calls.Batching.BatcherProperties
import Calls.Server.Messages
import Calls.Server.MessageRuns
import Calls.Server.TrackedVideos
import Calls.Server.ForcedEnds
import Calls.Webapp.Handlers
import Calls.Webapp.SessionEntries
import Calls.Server.News
import Calls.Server.Rooms
import Calls.Server.RoomRuns
import Calls.Webapp.Receiving
import Calls.Webapp.CallEntries
import Calls.Webapp.Replicas
import Calls.Webapp.ReplicaRuns
import Calls.Server.RecordingStarts
import Calls.Server.RecordingHandlers
import Calls.Server.RecordingRequests
import Calls.Server.RecordedCalls
import Calls.Server.RecordedJoins
import Calls.Server.RecordedItems
import Calls.Server.ToldRecordings
import Calls.Server.ToldRequests
import Calls.Server.RecordingEvents
import Calls.Server.CallLimits
import Calls.Server.Participants
import Calls.Webapp.ClientState
import Calls.Webapp.Resync
import Calls.Webapp.Reconnection
import Calls.Webapp.RecordingPrompt
import Calls.Webapp.SocketAttempts
import Calls.Webapp.IncomingCalls
import Calls.Server.JobMetadata
import Calls.Server.Disconnections
import Calls.Server.LeaveTimeouts
import Calls.Server.JobRows
import Calls.Server.JobRowRuns
import Calls.Server.EndedCalls
import Calls.Server.Elections
import Calls.Server.Rtcd
import Calls.Server.CleanUp
import Calls.Webapp.Audiences
import Calls.Library.Json
import Calls.Server.ScreenWrites
import Calls.Server.RecordingAttempts
import Calls.Server.RecordingOutcomes
import Calls.Server.RecordingRefusals
import Calls.Server.AtomicJoins
import Calls.Server.BatcherLifecycles
import Calls.Server.BatcherLifecycleRuns
import Calls.Library.Calendar
import Calls.Library.Grouping
import Calls.Db.Stats
import Calls.Db.StatsProperties
import Calls.Server.RemovalRuns
import Calls.Server.RtcdHosts
import Calls.Webapp.CallEnds
import Calls.Library.Values
import Calls.Server.CallPosts
import Calls.Webapp.SequenceNumbers
import Calls.Webapp.ClientLogs
import Calls.Server.EnvOverrides
import Calls.Server.SavedConfigurations
import Calls.Server.RateLimits
import Calls.Server.StoppedJobs
import Calls.Server.EnvKeys
import Calls.Server.ChannelStates
import Calls.Library.BoundedLogs
import Calls.Library.Replacements
import Calls.Cluster.MutexConfigs
import Calls.Webapp.ClientLogs
import Calls.Server.EnvKeys
import Calls.Webapp.SessionOrder
import Calls.Server.CallServer
import Calls.Server.CallServerProperties
import Calls.Server.CallServerRuns
import Calls.Server.CallLifetimes
import Calls.Server.Dismissals
import Calls.Server.HostRequests
import Calls.Library.Tasks
import Calls.Library.MediaStreams
import Calls.Webapp.CallsClient
import Calls.Webapp.DeviceClaims
import Calls.Webapp.DeviceOperations
import Calls.Webapp.DeviceRelease
import Calls.Server.RtcdClients
import Calls.Server.RtcdClientsProperties
import Calls.Server.RtcdClientRuns
import Calls.Webapp.VoiceClaims
import Calls.Webapp.VoiceOperations
import Calls.Webapp.VoiceRuns
import Calls.Library.Waiting
import Calls.Server.Signalling
import Calls.Server.SignallingProperties
import Calls.Server.SignallingOwners
import Calls.Server.SignallingRuns
import Calls.Library.Timers
import Calls.Webapp.FleetingItems
import Calls.Webapp.FleetingProperties
import Calls.Webapp.FleetingRuns
