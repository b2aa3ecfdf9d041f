import PacketRing.Reader.Ops

/-!
# The reader's public operations

A public operation runs one of the reader's operations and routes its fault, if any, to the
fault handler. A handler that returns lets the operation complete with a fallback value: `false`
for a status check, zero for the available bytes, the empty response for a receive, and the
reader itself for a release or a clear. The handler is called once per fault, and the backend
keeps the register accesses made before the fault.

`Reader.perform` names each operation by a `ReaderOp` and gives back the reader after it with the
faults it reported, which is what a run of operations threads from one to the next.

Main definitions: `ReaderOp`, `Reader.orFault`, `Reader.checkStatus`, `Reader.numAvailable`,
`Reader.receiveData`, `Reader.doneWithData`, `Reader.clearAllData`, `Reader.perform`.
-/

namespace PacketRing

/-- An operation of the reader. -/
inductive ReaderOp where
  | setup
  | disable
  | checkStatus
  | available
  | receiveAll
  | receive (least most : Nat)
  | release (n : Nat)
  | clear
deriving DecidableEq, Repr

namespace Reader

variable {β : Type} [Registers β]

/-- Runs an operation whose fault goes to a handler that returns: the value, or the fallback
together with the one fault reported. -/
def orFault {α : Type} (m : RegisterM β α) (fallback : α) : StateM β (α × List Fault) :=
  fun s =>
    match m.run.run s with
    | (.ok v, s') => ((v, []), s')
    | (.error f, s') => ((fallback, [f]), s')

/-- Reads and acknowledges the status; tells whether a packet has been written. -/
def checkStatus : StateM β (Bool × List Fault) := orFault poll false

/-- The bytes written by the engine and not yet handed out. -/
def numAvailable (r : Reader) : StateM β (Nat × List Fault) := orFault r.available 0

/-- Hands out between `least` and `most` bytes, with the reader after it. -/
def receiveData (r : Reader) (least most : Nat) : StateM β ((Response × Reader) × List Fault) :=
  orFault (r.receive least most) (Response.empty, r)

/-- Hands out everything available up to the end of the buffer. -/
def receiveAllData (r : Reader) : StateM β ((Response × Reader) × List Fault) :=
  r.receiveData 0 r.size

/-- Gives the oldest `n` handed-out bytes back to the engine. -/
def doneWithData (r : Reader) (n : Nat) : StateM β (Reader × List Fault) :=
  orFault (r.release n) r

/-- Gives the whole buffer back to the engine. -/
def clearAllData (r : Reader) : StateM β (Reader × List Fault) := orFault r.clear r

/-- The reader after one public operation, and the faults the operation reported. -/
def perform (r : Reader) : ReaderOp → StateM β (Reader × List Fault)
  | .setup => do pure (← r.setup, [])
  | .disable => do pure (← r.disable, [])
  | .checkStatus => do pure (r, (← checkStatus).2)
  | .available => do pure (r, (← r.numAvailable).2)
  | .receiveAll => do
    let (v, fs) ← r.receiveAllData
    pure (v.2, fs)
  | .receive least most => do
    let (v, fs) ← r.receiveData least most
    pure (v.2, fs)
  | .release n => r.doneWithData n
  | .clear => r.clearAllData

end Reader

end PacketRing
