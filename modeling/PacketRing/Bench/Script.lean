import PacketRing.Bench.Reply
import PacketRing.Registers.Block

/-!
# Scripts for a backend alone

A script drives one backend, a register block or a simulated engine, through a list of commands
and records after each command what it gave back, or why it aborted, together with the backend's
state. An aborted command leaves the backend as it was, and the script goes on with the next one.

Main definitions: `EngineEvent`, `EngineCommand`, `BlockCommand`, `Engine.perform`,
`Block.perform`, `Script.run`.
-/

namespace PacketRing

/-- What the world outside the reader does to a simulated engine. -/
inductive EngineEvent where
  /-- Lets the engine write up to this many bytes. -/
  | produce (k : UInt32)
  /-- As `produce`, reporting the runs written. -/
  | produceSpans (k : UInt32)
  /-- Sets status flags, as the engine does on an event. -/
  | raise (s : Status)
  /-- Moves the written address without any check. -/
  | setWritten (a : UInt32)
  /-- Stores a register value without the effects of programming it. -/
  | overwrite (f : Engine.Field)
deriving DecidableEq, Repr

/-- A command of an engine script. -/
inductive EngineCommand where
  | call (c : RegisterCall)
  | event (e : EngineEvent)
deriving DecidableEq, Repr

/-- A command of a block script. -/
inductive BlockCommand where
  | call (c : RegisterCall)
  | read (offset : Nat)
  | write (offset : Nat) (v : UInt32)
deriving DecidableEq, Repr

/-- What a command gave back, or why it aborted, and the state after it. -/
structure Step (σ : Type) where
  outcome : Except Abort Reply
  state : σ

/-- Performs a register access on any backend; register accesses never abort. -/
def RegisterCall.perform {β : Type} [Registers β] (c : RegisterCall) (b : β) :
    Except Abort Reply × β :=
  let (w, b') := c.run.run b
  (.ok (Reply.ofWord w), b')

namespace Engine

/-- Applies an event other than a production; these never abort. -/
def apply (e : Engine) : EngineEvent → Engine
  | .raise s => e.raise s
  | .setWritten a => e.setWritten a
  | .overwrite f => e.overwrite f
  | _ => e

/-- Performs one command of an engine script. -/
def perform (e : Engine) : EngineCommand → Except Abort Reply × Engine
  | .call c => c.perform e
  | .event (.produce k) =>
    match e.produce k with
    | .ok (t, e') => (.ok (.number t.amount.toNat), e')
    | .error a => (.error a, e)
  | .event (.produceSpans k) =>
    match e.produce k with
    | .ok (t, e') => (.ok (.transfer t), e')
    | .error a => (.error a, e)
  | .event ev => (.ok .unit, e.apply ev)

end Engine

/-- Performs one command of a block script. -/
def Block.perform (b : Block) : BlockCommand → Except Abort Reply × Block
  | .call c => c.perform b
  | .read offset =>
    match b.read offset with
    | .ok w => (.ok (.number w.toNat), b)
    | .error a => (.error a, b)
  | .write offset v =>
    match b.write offset v with
    | .ok b' => (.ok .unit, b')
    | .error a => (.error a, b)

/-- Runs the commands in order from state `s`, one step each. -/
def Script.run {σ κ : Type} (perform : σ → κ → Except Abort Reply × σ) (s : σ) :
    List κ → List (Step σ)
  | [] => []
  | c :: cs =>
    let (outcome, s') := perform s c
    ⟨outcome, s'⟩ :: Script.run perform s' cs

theorem length_run {σ κ : Type} (perform : σ → κ → Except Abort Reply × σ) (s : σ)
    (cs : List κ) : (Script.run perform s cs).length = cs.length := by
  induction cs generalizing s with
  | nil => rfl
  | cons c cs ih => simp [Script.run, ih]

end PacketRing
