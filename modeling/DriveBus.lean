import DriveBus.Library.Transition
import DriveBus.Library.ByteMemory
import DriveBus.Library.LinkedChain
import DriveBus.Library.GuardedScope
import DriveBus.Library.EdgeTrigger
import DriveBus.Library.HolderMask
import DriveBus.Library.Contract
import DriveBus.Library.UnorderedMap
import DriveBus.Library.Replica
import DriveBus.Library.Deadline
import DriveBus.SharedMemory.Layout
import DriveBus.SharedMemory.Publisher
import DriveBus.SharedMemory.Subscriber
import DriveBus.SharedMemory.DataPlane
import DriveBus.SharedMemory.RingAdmission
import DriveBus.SharedMemory.Pool
import DriveBus.SharedMemory.PoolImage
import DriveBus.SharedMemory.Tracking
import DriveBus.SharedMemory.Reclaim
import DriveBus.SharedMemory.Invariant
import DriveBus.SharedMemory.ReaderSteps
import DriveBus.SharedMemory.PublisherSteps
import DriveBus.SharedMemory.Delivery
import DriveBus.SharedMemory.Conservation
import DriveBus.SharedMemory.CrashRecovery
import DriveBus.SharedMemory.SplitPlane
import DriveBus.SharedMemory.SplitInvariant
import DriveBus.SharedMemory.SplitSubscriber
import DriveBus.SharedMemory.SplitReturn
import DriveBus.SharedMemory.SplitPublish
import DriveBus.SharedMemory.SplitReap
import DriveBus.SharedMemory.SplitRun
import DriveBus.SharedMemory.SplitAtomic
import DriveBus.SharedMemory.ConcurrentReturn
import DriveBus.SharedMemory.SpaceSignal
import DriveBus.SharedMemory.SequenceNumbers
import DriveBus.SharedMemory.DataEvents
import DriveBus.SharedMemory.HandlerInvariant
import DriveBus.SharedMemory.DrainedEvents
import DriveBus.SharedMemory.PublisherExit
import DriveBus.SharedMemory.EventFrame
import DriveBus.ControlPlane.Protocol
import DriveBus.ControlPlane.State
import DriveBus.ControlPlane.Handlers
import DriveBus.ControlPlane.Routing
import DriveBus.ControlPlane.Slots
import DriveBus.ControlPlane.SubscriberDisconnect
import DriveBus.ControlPlane.PublisherDisconnect
import DriveBus.ControlPlane.SubscriberRegistration
import DriveBus.ControlPlane.PublisherRegistration
import DriveBus.ControlPlane.Network
import DriveBus.ControlPlane.Requests
import DriveBus.ControlPlane.Consistency
import DriveBus.ControlPlane.Completeness
import DriveBus.ControlPlane.PeerFailure
import DriveBus.ControlPlane.Roles
import DriveBus.ControlPlane.Remains
import DriveBus.ControlPlane.Unregistered
import DriveBus.ControlPlane.RecordRoles
import DriveBus.ControlPlane.Capacity
import DriveBus.ControlPlane.Transcript
import DriveBus.ControlPlane.Feeds
import DriveBus.ControlPlane.AttachmentIds
import DriveBus.ControlPlane.Wire
import DriveBus.ControlPlane.Descriptors
import DriveBus.ControlPlane.ClientDescriptors
import DriveBus.ControlPlane.StatusSnapshot
import DriveBus.Asynchronous.Queue
import DriveBus.SharedMemory.ConcurrentAdmission
import DriveBus.Asynchronous.Attempt
import DriveBus.Asynchronous.Worker
import DriveBus.Asynchronous.Lifecycle
import DriveBus.Asynchronous.Ledger
import DriveBus.Asynchronous.WorkerInvariant
import DriveBus.Asynchronous.WorldInvariant
import DriveBus.Asynchronous.Completion
import DriveBus.Asynchronous.DropOldest
import DriveBus.Asynchronous.Rollback
import DriveBus.Asynchronous.FailedMove
import DriveBus.Asynchronous.EventLoop
import DriveBus.Asynchronous.WakeUp
import DriveBus.Asynchronous.SubscriberWorker
import DriveBus.Asynchronous.SubscriberEvents
import DriveBus.Synchronous.Publish
import DriveBus.Synchronous.FailedAttempt
import DriveBus.Synchronous.ReadData
import DriveBus.Synchronous.HandedOver
import DriveBus.Synchronous.ClockedPublish
import DriveBus.Synchronous.Subscribe
import DriveBus.Clients.ControlSocket
import DriveBus.Clients.AttachmentBatch
import DriveBus.Clients.BatchDecoding
import DriveBus.Clients.SubscriberControl
import DriveBus.Clients.PublisherControl
import DriveBus.Clients.ReceivedDescriptors
import DriveBus.ControlPlane.Connections
import DriveBus.Clients.SubscriberTable
import DriveBus.Clients.BrokerStatus
import DriveBus.Clients.Objects
import DriveBus.Clients.Obligations
import DriveBus.Clients.Ownership
import DriveBus.Agreement.Joint
import DriveBus.Agreement.SubscriberProgram
import DriveBus.Agreement.SubscriberRecords
import DriveBus.Agreement.Subscribers
import DriveBus.Agreement.Mirror
import DriveBus.Agreement.Runs
import DriveBus.Agreement.PublisherProgram
import DriveBus.Agreement.PublisherRecords
import DriveBus.Agreement.Publishers
import DriveBus.Agreement.Parties
import DriveBus.Agreement.Ends
