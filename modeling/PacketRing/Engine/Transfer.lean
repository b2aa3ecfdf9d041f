import PacketRing.Engine.Basic
import PacketRing.Buffer

/-!
# Production of packets

A production lets the engine write up to a requested number of bytes. The engine writes only
while switched on and with a buffer of positive size; it writes the whole packets that fit into
the free space, starting at the written offset, in at most two runs: to the end of the buffer,
then on from its start. After the bytes are in place the written address moves past them and the
`writeDone` flag is raised.

The two halves are kept apart, because whoever places the bytes sees them between the two:
`Engine.plan` computes the runs, and `Engine.commit` moves the written address. `commit` adds the
amount to the written offset in 32 bits, and that sum may abort after the bytes were placed.

Main definitions: `Transfer`, `Engine.plan`, `Engine.commit`, `Engine.produce`.
-/

namespace PacketRing

/-- The bytes of one production: their number and the runs of the buffer that receive them. -/
structure Transfer where
  amount : UInt32 := 0
  spans : List Span := []
deriving DecidableEq, Repr

namespace Engine

/-- The runs of a production of `n` bytes at offset `offset` of a ring of `size` bytes: up to the
end of the ring, and the rest from its start. -/
def runs (size offset n : UInt32) : List Span :=
  let first := min n (size - offset)
  ⟨offset.toNat, first.toNat⟩ :: if first < n then [⟨0, (n - first).toNat⟩] else []

/-- The bytes the engine would write for a request of `k` bytes: the whole packets of
`min k free`. A packet length of zero aborts when the request is rounded down to packets. -/
def plan (e : Engine) (k : UInt32) : Except Abort Transfer :=
  if !e.enabled || e.size = 0 then .ok {}
  else do
    let free ← e.free
    let n := min k free
    if e.packetLength = 0 then throw .remainderByZero
    let n := n - n % e.packetLength
    if n = 0 then return {}
    pure ⟨n, runs e.size (e.offsetOf e.writtenAddress) n⟩

/-- Moves the written address past the bytes of a transfer and raises `writeDone`; an empty
transfer changes nothing. -/
def commit (e : Engine) (t : Transfer) : Except Abort Engine :=
  if t.amount = 0 then .ok e
  else do
    let next ← addWords? (e.offsetOf e.writtenAddress) t.amount
    pure { e with
      writtenAddress := e.startAddress + next % e.size
      status := e.status ∪ .single .writeDone }

/-- A whole production: the transfer and the engine after it. -/
def produce (e : Engine) (k : UInt32) : Except Abort (Transfer × Engine) := do
  let t ← e.plan k
  let e' ← e.commit t
  pure (t, e')

theorem commit_empty (e : Engine) : e.commit {} = .ok e := rfl

end Engine

end PacketRing
