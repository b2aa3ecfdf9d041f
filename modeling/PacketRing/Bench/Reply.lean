import PacketRing.Engine.Transfer
import PacketRing.Response

/-!
# Replies of a bench command

What a command of the test bench gives back when it completes: nothing, a flag, a number, the
runs of a production, a handed-out response with its index, the bytes of a response, or the fault
with which the reader refused to show a response's bytes.
-/

namespace PacketRing

/-- The value a completed bench command gives back. -/
inductive Reply where
  | unit
  | flag (b : Bool)
  | number (n : Nat)
  | transfer (t : Transfer)
  /-- A response, numbered in the order the bench received them. -/
  | response (index : Nat) (r : Response)
  | bytes (data : ByteArray)
  | refused (f : Fault)

/-- The reply of a register access: nothing, or the word read. -/
def Reply.ofWord : Option UInt32 → Reply
  | none => .unit
  | some w => .number w.toNat

end PacketRing
