import Blake2b.Bytes
import Blake2b.Compression.Grid
import Blake2b.Compression.Mix
import Blake2b.Compression.Schedule
import Blake2b.Compression.Unmix
import Blake2b.Compression.Workspace
import Blake2b.Counter
import Blake2b.Digest
import Blake2b.Fault
import Blake2b.Frame
import Blake2b.Hasher
import Blake2b.Intake
import Blake2b.KnownAnswer.Check
import Blake2b.KnownAnswer.Table
import Blake2b.LittleEndian
import Blake2b.Log
import Blake2b.Main
import Blake2b.Message
import Blake2b.Operation
import Blake2b.Parameters
import Blake2b.Recording
import Blake2b.Storage
import Blake2b.Stream.Failure
import Blake2b.Stream.Sink
import Blake2b.Stream.Source
import Blake2b.Text.Hex
import Blake2b.Text.Record
import Blake2b.Proofs.Absorption
import Blake2b.Proofs.Accounting
import Blake2b.Proofs.Backlog
import Blake2b.Proofs.Bounds
import Blake2b.Proofs.Checked
import Blake2b.Proofs.Chunking
import Blake2b.Proofs.Comparison
import Blake2b.Proofs.Counter
import Blake2b.Proofs.Counting
import Blake2b.Proofs.DeadBytes
import Blake2b.Proofs.Finalization
import Blake2b.Proofs.Grid
import Blake2b.Proofs.Hex
import Blake2b.Proofs.Intake
import Blake2b.Proofs.Lanes
import Blake2b.Proofs.Lifecycle
import Blake2b.Proofs.LittleEndian
import Blake2b.Proofs.Message
import Blake2b.Proofs.Mix
import Blake2b.Proofs.Outline
import Blake2b.Proofs.Packing
import Blake2b.Proofs.Parameters
import Blake2b.Proofs.Prefixing
import Blake2b.Proofs.Refusal
import Blake2b.Proofs.Run
import Blake2b.Proofs.SelfCheck
import Blake2b.Proofs.Separation
import Blake2b.Proofs.Setup
import Blake2b.Proofs.Source
import Blake2b.Proofs.Storage
import Blake2b.Proofs.Streaming
import Blake2b.Proofs.Unmix
import Blake2b.Proofs.Wiping
import Blake2b.Proofs.Workspace
