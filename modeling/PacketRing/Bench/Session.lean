import PacketRing.Bench.Script
import PacketRing.Reader.Public

/-!
# A test bench for the reader

A session puts a reader in front of a backend, either a simulated engine or a plain register
block, together with the memory that holds the buffer's bytes. It performs commands for the reader,
for the registers and for the engine in order, and reports after each command what it gave back,
the faults the reader raised, and the state of reader and backend.

Faults follow a policy fixed for the session. Under `record` the fault is listed and the
operation completes with its fallback value: `false`, zero, the empty response, or nothing.
Under `abort` the fault is listed and the command aborts. Either way the reader keeps its
cursors, and the backend keeps the register accesses made before the fault.

Produced bytes are given the values of a running count of all bytes the engine has written,
modulo 251, so that every byte handed out shows where in the stream it came from. The count runs
on over bytes that fall outside the memory, which are not stored.

Main definitions: `Backend`, `Policy`, `Command`, `Setup`, `Session`, `Session.start`,
`Session.perform`, `Session.run`.
-/

namespace PacketRing

/-- The registers behind the reader. -/
inductive Backend where
  | engine (e : Engine)
  | block (b : Block)
deriving DecidableEq, Repr

instance : Registers Backend where
  setEnabled on
    | .engine e => .engine (Registers.setEnabled on e)
    | .block b => .block (Registers.setEnabled on b)
  status
    | .engine e => let (s, e') := Registers.status e; (s, .engine e')
    | .block b => let (s, b') := Registers.status b; (s, .block b')
  clearStatus s
    | .engine e => .engine (Registers.clearStatus s e)
    | .block b => .block (Registers.clearStatus s b)
  setMask s
    | .engine e => .engine (Registers.setMask s e)
    | .block b => .block (Registers.setMask s b)
  setStart a
    | .engine e => .engine (Registers.setStart a e)
    | .block b => .block (Registers.setStart a b)
  setEnd a
    | .engine e => .engine (Registers.setEnd a e)
    | .block b => .block (Registers.setEnd a b)
  written
    | .engine e => let (a, e') := Registers.written e; (a, .engine e')
    | .block b => let (a, b') := Registers.written b; (a, .block b')
  setRead a
    | .engine e => .engine (Registers.setRead a e)
    | .block b => .block (Registers.setRead a b)

/-- What the reader does with a fault. -/
inductive Policy where
  /-- List the fault and complete with the fallback value. -/
  | record
  /-- List the fault and abort. -/
  | abort
deriving DecidableEq, Repr

/-- New values for a rebuilt reader; a missing value keeps that of the live reader. -/
structure Rebuild where
  packetLength : Option Nat := none
  busAddress : Option UInt32 := none
  size : Option Nat := none
  mask : Option Status := none
deriving DecidableEq, Repr

/-- A command of the bench. -/
inductive Command where
  | reader (op : ReaderOp)
  /-- Shows the bytes of the response with this index. -/
  | data (index : Nat)
  /-- Shows the bytes of the empty response. -/
  | dataOfEmpty
  | call (c : RegisterCall)
  | event (e : EngineEvent)
  /-- Reads a word of the register block by byte offset. -/
  | peek (offset : Nat)
  /-- Writes a word of the register block by byte offset. -/
  | poke (offset : Nat) (v : UInt32)
  /-- Replaces the reader by one over fresh memory, with the same backend and policy. -/
  | rebuild (r : Rebuild)
deriving DecidableEq, Repr

/-- The largest memory the bench provides for a buffer. -/
def memoryMax : Nat := 1048576

/-- The state of the bench. -/
structure Session where
  policy : Policy
  reader : Reader
  backend : Backend
  /-- The bytes of the live reader's buffer. -/
  memory : ByteArray
  /-- The number of memories provided so far; the next one is told apart by this number. -/
  regions : Nat
  /-- Every response handed out, in order. -/
  responses : Array Response := #[]
  /-- The number of bytes the engine has produced. -/
  stream : Nat := 0

/-- How a command ended. -/
inductive Outcome where
  | reply (r : Reply)
  | aborted (a : Abort)
  /-- A rebuild that the configuration refused, under the `record` policy. -/
  | refused (f : Fault)
  /-- A command that this bench cannot perform. -/
  | invalid (why : String)

/-- One command's report: its outcome, the faults raised, and reader and backend after it. -/
structure Report where
  outcome : Outcome
  faults : List Fault
  reader : Reader
  backend : Backend

/-- Stores the produced bytes of one run, `(count + i) % 251` at offset `offset + i`, where the
memory holds that offset. -/
def fillRun (memory : ByteArray) (count : Nat) (run : Span) : ByteArray :=
  let stop := min (run.offset + run.length) memory.size
  Nat.fold (stop - run.offset) (fun i _ m =>
    let j := run.offset + i
    if h : j < m.size then m.set j ((count + i) % 251).toUInt8 h else m) memory

/-- Stores the bytes of all runs in order and advances the count by every byte produced. -/
def fillRuns (memory : ByteArray) (count : Nat) : List Span → ByteArray × Nat
  | [] => (memory, count)
  | run :: runs => fillRuns (fillRun memory count run) (count + run.length) runs

namespace Session

/-- A session's command result before the report is taken. -/
structure Turn where
  outcome : Outcome
  faults : List Fault
  session : Session

/-- Completes a reader operation that may have faulted. `run` is the operation's result and the
backend after it; `finish` builds the reply and the next session from a value. -/
def conclude {α : Type} (s : Session) (run : Except Fault α × Backend) (fallback : α)
    (finish : Session → α → Reply × Session) : Turn :=
  let s1 := { s with backend := run.2 }
  match run.1 with
  | .ok v =>
    let (r, s2) := finish s1 v
    ⟨.reply r, [], s2⟩
  | .error f =>
    match s.policy with
    | .record =>
      let (r, s2) := finish s1 fallback
      ⟨.reply r, [f], s2⟩
    | .abort => ⟨.aborted (.assertion f), [f], s1⟩

/-- Keeps a response and replies with it and its index. -/
def handOut (s : Session) (resp : Response) (r : Reader) : Reply × Session :=
  (.response s.responses.size resp, { s with reader := r, responses := s.responses.push resp })

/-- Hands out between `least` and `most` bytes. -/
def receive (s : Session) (least most : Nat) : Turn :=
  s.conclude ((s.reader.receive least most : RegisterM Backend _).run.run s.backend)
    (Response.empty, s.reader) fun s' v => s'.handOut v.1 v.2

/-- Performs an operation of the reader. -/
def operate (s : Session) : ReaderOp → Turn
  | .setup =>
    let (r, b) := s.reader.setup.run s.backend
    ⟨.reply .unit, [], { s with reader := r, backend := b }⟩
  | .disable =>
    let (r, b) := s.reader.disable.run s.backend
    ⟨.reply .unit, [], { s with reader := r, backend := b }⟩
  | .checkStatus =>
    s.conclude ((Reader.poll : RegisterM Backend Bool).run.run s.backend) false
      fun s' v => (.flag v, s')
  | .available =>
    s.conclude ((s.reader.available : RegisterM Backend Nat).run.run s.backend) 0
      fun s' v => (.number v, s')
  | .receiveAll => s.receive 0 s.reader.size
  | .receive least most => s.receive least most
  | .release n =>
    s.conclude ((s.reader.release n : RegisterM Backend Reader).run.run s.backend) s.reader
      fun s' r => (.unit, { s' with reader := r })
  | .clear =>
    s.conclude ((s.reader.clear : RegisterM Backend Reader).run.run s.backend) s.reader
      fun s' r => (.unit, { s' with reader := r })

/-- Lets the engine produce: the runs are planned, their bytes stored, and then the written
address moves. When that last step aborts, the stored bytes stay. -/
def produce (s : Session) (e : Engine) (k : UInt32) (spans : Bool) : Turn :=
  match e.plan k with
  | .error a => ⟨.aborted a, [], s⟩
  | .ok t =>
    let (memory, stream) := fillRuns s.memory s.stream t.spans
    let s1 := { s with memory, stream }
    match e.commit t with
    | .error a => ⟨.aborted a, [], s1⟩
    | .ok e' =>
      let reply := if spans then Reply.transfer t else .number t.amount.toNat
      ⟨.reply reply, [], { s1 with backend := .engine e' }⟩

/-- A fresh memory of `size` zero bytes. -/
def zeroMemory (size : Nat) : ByteArray := ⟨Array.replicate size 0⟩

/-- Builds a reader over a new memory from the live reader's values and the given ones. -/
def rebuild (s : Session) (p : Rebuild) : Turn :=
  let config : Config :=
    { packetLength := p.packetLength.getD s.reader.config.packetLength
      mask := p.mask.getD s.reader.config.mask }
  let buffer : Buffer :=
    { region := s.regions
      busAddress := p.busAddress.getD s.reader.buffer.busAddress
      size := p.size.getD s.reader.buffer.size }
  match Reader.new? buffer config with
  | .ok r =>
    if memoryMax < buffer.size then ⟨.invalid "buffer size exceeds the bench's memory", [], s⟩
    else
      ⟨.reply .unit, [],
        { s with reader := r, memory := zeroMemory buffer.size, regions := s.regions + 1 }⟩
  | .error f =>
    match s.policy with
    | .record => ⟨.refused f, [f], s⟩
    | .abort => ⟨.aborted (.assertion f), [f], s⟩

/-- Shows the bytes of a response, or the fault that refuses them. -/
def view (s : Session) (resp : Response) : Reply :=
  match s.reader.data resp with
  | .ok run => .bytes (s.memory.extract run.offset (run.offset + run.length))
  | .error f => .refused f

/-- Performs one command. -/
def perform (s : Session) : Command → Turn
  | .reader op => s.operate op
  | .data index =>
    match s.responses[index]? with
    | some resp => ⟨.reply (s.view resp), [], s⟩
    | none => ⟨.invalid "no response with that index", [], s⟩
  | .dataOfEmpty => ⟨.reply (s.view Response.empty), [], s⟩
  | .call c =>
    let (w, b) := c.run.run s.backend
    ⟨.reply (Reply.ofWord w), [], { s with backend := b }⟩
  | .event ev =>
    match s.backend, ev with
    | .engine e, .produce k => s.produce e k false
    | .engine e, .produceSpans k => s.produce e k true
    | .engine e, ev => ⟨.reply .unit, [], { s with backend := .engine (e.apply ev) }⟩
    | .block _, _ => ⟨.invalid "the register block has no engine", [], s⟩
  | .peek offset =>
    match s.backend with
    | .block b =>
      match b.read offset with
      | .ok w => ⟨.reply (.number w.toNat), [], s⟩
      | .error a => ⟨.aborted a, [], s⟩
    | .engine _ => ⟨.invalid "the engine has no register block", [], s⟩
  | .poke offset v =>
    match s.backend with
    | .block b =>
      match b.write offset v with
      | .ok b' => ⟨.reply .unit, [], { s with backend := .block b' }⟩
      | .error a => ⟨.aborted a, [], s⟩
    | .engine _ => ⟨.invalid "the engine has no register block", [], s⟩
  | .rebuild p => s.rebuild p

/-- Performs the commands in order, one report each. -/
def run (s : Session) : List Command → List Report
  | [] => []
  | c :: cs =>
    let t := s.perform c
    ⟨t.outcome, t.faults, t.session.reader, t.session.backend⟩ :: run t.session cs

end Session

/-- The backend a session starts with. -/
inductive BackendSetup where
  /-- A simulated engine, writing packets of the given length, or of the reader's. -/
  | engine (packetLength : Option UInt32)
  | block (b : Block)
deriving DecidableEq, Repr

/-- What a session starts from. -/
structure Setup where
  config : Config
  busAddress : UInt32
  size : Nat
  policy : Policy := .record
  backend : BackendSetup := .engine none
deriving DecidableEq, Repr

/-- The engine's packet length when none is given: the reader's if it is a positive 32-bit
number, else 64. -/
def Setup.enginePacketLength (c : Config) : Option UInt32 → UInt32
  | some n => n
  | none =>
    if 0 < c.packetLength ∧ c.packetLength ≤ wordMax then c.packetLength.toUInt32 else 64

/-- How a session starts. -/
inductive Opening where
  | ready (s : Session)
  /-- Building the engine or the reader aborted, after raising these faults. -/
  | aborted (a : Abort) (faults : List Fault)
  /-- The configuration was refused under the `record` policy. -/
  | refused (f : Fault)
  | invalid (why : String)

namespace Session

/-- Builds the backend, then the reader over a fresh memory. -/
def start (u : Setup) : Opening :=
  let backend : Except Abort Backend :=
    match u.backend with
    | .engine n => (Engine.new? (Setup.enginePacketLength u.config n)).map .engine
    | .block b => .ok (.block b)
  match backend with
  | .error a => .aborted a []
  | .ok backend =>
    let buffer : Buffer := { region := 0, busAddress := u.busAddress, size := u.size }
    match Reader.new? buffer u.config with
    | .ok r =>
      if memoryMax < u.size then .invalid "buffer size exceeds the bench's memory"
      else .ready
        { policy := u.policy, reader := r, backend, memory := zeroMemory u.size, regions := 1 }
    | .error f =>
      match u.policy with
      | .record => .refused f
      | .abort => .aborted (.assertion f) [f]

end Session

end PacketRing
