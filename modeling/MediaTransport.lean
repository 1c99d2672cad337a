import MediaTransport.Connector.Bench
import MediaTransport.Main
import MediaTransport.Packet.Sequence
import MediaTransport.Pool.Depot
import MediaTransport.Proofs.Channel.Egress
import MediaTransport.Proofs.Channel.Sending
import MediaTransport.Proofs.Channel.Sizing
import MediaTransport.Proofs.Config.Forms
import MediaTransport.Proofs.Connector.Accounting
import MediaTransport.Proofs.Connector.Buffers
import MediaTransport.Proofs.Connector.Datagrams
import MediaTransport.Proofs.Connector.LifeCycle
import MediaTransport.Proofs.Connector.Polls
import MediaTransport.Proofs.Connector.Reports
import MediaTransport.Proofs.Dispatch.Interplay
import MediaTransport.Proofs.Dispatch.Ordering
import MediaTransport.Proofs.Dispatch.Scripted
import MediaTransport.Proofs.Dispatch.Snapshot
import MediaTransport.Proofs.Limiter.Elapsed
import MediaTransport.Proofs.Limiter.Ideal
import MediaTransport.Proofs.Limiter.Progress
import MediaTransport.Proofs.Limiter.Racing
import MediaTransport.Proofs.Limiter.Spacing
import MediaTransport.Proofs.Packet.Feedback.Demultiplexing
import MediaTransport.Proofs.Packet.Feedback.NormalForm
import MediaTransport.Proofs.Packet.Sequence.Places
import MediaTransport.Proofs.Packet.Sequence.Sorting
import MediaTransport.Proofs.PacketLog.Choosing
import MediaTransport.Proofs.Pool.Depots
import MediaTransport.Proofs.Pool.Reuse
import MediaTransport.Proofs.SendQueue.Conservation
import MediaTransport.Proofs.SendQueue.Wakeups
import MediaTransport.Proofs.Session.Buffers
import MediaTransport.Proofs.Session.Feedback
import MediaTransport.Proofs.Session.Tracking
import MediaTransport.Proofs.Strategy.Merging
import MediaTransport.Proofs.Strategy.Selection
import MediaTransport.Proofs.Window.Histories
import MediaTransport.Proofs.Window.Writes
import MediaTransport.Rig
import MediaTransport.Session
