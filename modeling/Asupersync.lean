import Asupersync.Machine.Run
import Asupersync.Types.Basic
import Asupersync.Types.Cancel
import Asupersync.Types.Outcome
import Asupersync.Record.Task
import Asupersync.Spec.TaskLifecycle
import Asupersync.Proofs.Task.Lifecycle
import Asupersync.Proofs.Task.Witness
import Asupersync.Record.Region
import Asupersync.Spec.RegionLifecycle
import Asupersync.Proofs.Region.Close
import Asupersync.Machine.Exec
import Asupersync.Store.OrdMap
import Asupersync.Obligation.Ledger
import Asupersync.Proofs.Obligation.Moves
import Asupersync.Proofs.Obligation.Bookkeeping
import Asupersync.Proofs.Obligation.Fence
import Asupersync.Queue.Accounts
import Asupersync.Channel.Mpsc
import Asupersync.Channel.MpscSystem
import Asupersync.Proofs.Channel.MpscSpec
import Asupersync.Proofs.Channel.MpscSafety
import Asupersync.Store.Heap
import Asupersync.Store.Slab
import Asupersync.Time.Wheel
import Asupersync.Proofs.Time.Parked
import Asupersync.Bytes.BigEndian
import Asupersync.Machine.Append
import Asupersync.Types.BytesMut
import Asupersync.Http.H2.Error
import Asupersync.Http.Hpack.Huffman
import Asupersync.Http.Hpack.Codec
import Asupersync.Http.Hpack.Coder
import Asupersync.Proofs.Hpack.Integer
import Asupersync.Proofs.Hpack.Budget
import Asupersync.Order.LeftMax
import Asupersync.Proofs.Outcome.Join
import Asupersync.Types.Capability
import Asupersync.Proofs.Budget.Meet
import Asupersync.Proofs.Cancel.Attribution
import Asupersync.Proofs.Region.Admission
import Asupersync.Proofs.Obligation.Drain
import Asupersync.Store.LinkedSlab
import Asupersync.Sync.Semaphore
import Asupersync.Sync.SemaphoreSystem
import Asupersync.Proofs.Sync.SemaphoreQueue
import Asupersync.Proofs.Sync.SemaphoreOps
import Asupersync.Proofs.Sync.SemaphoreSafety
import Asupersync.Machine.Loop
import Asupersync.Algebra.RowReduce
import Asupersync.Raptorq.Gf256
import Asupersync.Proofs.Raptorq.Gf256Field
import Asupersync.Raptorq.ConstraintMatrix
import Asupersync.Proofs.Raptorq.Solve
import Asupersync.Raptorq.SystematicParams
import Asupersync.Raptorq.BlockPlan
import Asupersync.Bytes.Slice
import Asupersync.Raptorq.Gf256Kernels
import Asupersync.Proofs.Raptorq.Gf256Kernels
import Asupersync.Proofs.Raptorq.BlockPlan
import Asupersync.Http.H2.Frame
import Asupersync.Proofs.H2.FrameEncode
import Asupersync.Codec.LengthDelimited
import Asupersync.Proofs.Codec.Decode
import Asupersync.Proofs.Codec.LengthDelimited
import Asupersync.Proofs.Codec.Recovery
import Asupersync.Raptorq.Rfc6330
import Asupersync.Proofs.Raptorq.Prime
import Asupersync.Algebra.ModWalk
import Asupersync.Proofs.Raptorq.Tuple
import Asupersync.Net.QuicCore
import Asupersync.Algebra.ModWindow
import Asupersync.Proofs.Quic.PacketNumber
import Asupersync.Proofs.Quic.Varint
import Asupersync.Proofs.Quic.Header
import Asupersync.Proofs.Quic.TransportParameters
