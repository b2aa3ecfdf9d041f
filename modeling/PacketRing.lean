import PacketRing.Abort
import PacketRing.Bench.Reply
import PacketRing.Bench.Script
import PacketRing.Bench.Session
import PacketRing.Buffer
import PacketRing.Engine.Basic
import PacketRing.Engine.Transfer
import PacketRing.Fault
import PacketRing.Proofs.Acceptance
import PacketRing.Proofs.Cursors
import PacketRing.Proofs.Distances
import PacketRing.Proofs.Drain
import PacketRing.Proofs.EngineSpecs
import PacketRing.Proofs.Faults
import PacketRing.Proofs.OperationSpecs
import PacketRing.Proofs.Overflow
import PacketRing.Proofs.Production
import PacketRing.Proofs.Receive
import PacketRing.Proofs.RegisterImage
import PacketRing.Proofs.RegisterTrace
import PacketRing.Proofs.Resync
import PacketRing.Proofs.Staleness
import PacketRing.Proofs.StatusDelivery
import PacketRing.Proofs.Stream
import PacketRing.Proofs.WordAccess
import PacketRing.Reader.Basic
import PacketRing.Reader.Ops
import PacketRing.Reader.Public
import PacketRing.Registers
import PacketRing.Registers.Block
import PacketRing.Response
import PacketRing.Status
import PacketRing.Text.Hex
import PacketRing.Word
