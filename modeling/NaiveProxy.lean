import NaiveProxy.PartitionAlloc.Bits
import NaiveProxy.PartitionAlloc.Constants
import NaiveProxy.PartitionAlloc.BucketTable
import NaiveProxy.PartitionAlloc.BucketIndex
import NaiveProxy.PartitionAlloc.DirectMap
import NaiveProxy.PartitionAlloc.Root
import NaiveProxy.PartitionAlloc.Alloc
import NaiveProxy.PartitionAlloc.AlignedAlloc
import NaiveProxy.PartitionAlloc.SlotBytes
import NaiveProxy.PartitionAlloc.Free
import NaiveProxy.PartitionAlloc.Lifecycle
import NaiveProxy.PartitionAlloc.Threads
import NaiveProxy.PartitionAlloc.Layout
import NaiveProxy.PartitionAlloc.Program
import NaiveProxy.PartitionAlloc.Refinement
import NaiveProxy.PartitionAlloc.Zap
import NaiveProxy.PartitionAlloc.Committed
import NaiveProxy.PartitionAlloc.RootLookup
import NaiveProxy.Quic.FakeProofSourceHandle
import NaiveProxy.Quic.DataWriter
import NaiveProxy.Quic.CryptoUtils
import NaiveProxy.Quic.KeySchedule
import NaiveProxy.Quic.Handshake
