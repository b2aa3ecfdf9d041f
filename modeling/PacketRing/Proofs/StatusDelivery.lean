import PacketRing.Proofs.RegisterImage
import PacketRing.Proofs.Production
import PacketRing.Bench.Script

/-!
# Every status flag is delivered once

The simulated engine keeps its status flags until they are acknowledged. A production that writes
raises `writeDone`, an outside event raises whatever flags it names, and programming the start,
end or read address off the packet grid raises that address's `Unaligned` flag. The reader takes
the flags only when it polls, in a status check or at the start of a receive: it reads them once,
acknowledges exactly what it read, and reports the error flags among them as one hardware fault.

An `Activity` is one thing that happens to the engine: an operation of a reader, or a command
from outside, which is an engine event or a direct register access. Any reader may act, since the
status does not depend on the reader's state. `Activity.raised` names the flags an activity sets,
and `Activity.ordinary` holds when the activity leaves the status to these rules: it neither
stores a status value nor acknowledges flags from outside the reader.

* `Reader.perform_status` — a poll leaves no flag, and any other operation adds the flags of the
  addresses it programs.
* `Engine.perform_status` — an outside command adds the flags it raises.
* `Activity.polled_eq_gaps` — over a whole run, each poll reads exactly the flags raised in the
  gap since the previous poll, and reports their error flags exactly when there are some.

The main statement is `polls_deliver_status`.
-/

namespace PacketRing

/-! ### Sets of flags -/

namespace Status

@[simp] theorem has_empty (f : Flag) : ({} : Status).has f = false := by
  cases f <;> rfl

@[simp] theorem has_single (f g : Flag) : (single f).has g = (g == f) :=
  has_ofPred _ g

theorem union_empty (s : Status) : s ∪ {} = s := by
  ext f
  simp

theorem union_assoc (s t u : Status) : s ∪ t ∪ u = s ∪ (t ∪ u) := by
  ext f
  simp [Bool.or_assoc]

theorem diff_self (s : Status) : s \ s = {} := by
  ext f
  simp

/-- A set that `isEmpty` finds empty is the empty set. -/
theorem eq_empty_of_isEmpty {s : Status} (h : s.isEmpty = true) : s = {} := by
  ext f
  have hf := List.all_eq_true.mp h f (Flag.mem_all f)
  simpa using hf

/-- The flags of the hardware fault that a poll reading `s` reports: the error flags, when there
are any. -/
def errorReport (s : Status) : List Status := if s.hasErrors then [s.errors] else []

end Status

/-- The flags that a fault carries when it is a hardware fault. -/
def Fault.hardwareFlags? : Fault → Option Status
  | .hardware s => some s
  | _ => none

/-- Whether the operation starts by polling the status: a status check and a receive do. -/
def ReaderOp.polls : ReaderOp → Bool
  | .checkStatus | .receiveAll | .receive _ _ => true
  | _ => false

/-! ### The status register of the engine -/

namespace Engine

/-- The flag that programming address `a` raises on an engine with packet length `pl`: `f` when
`pl` is nonzero and does not divide `a`, and none otherwise. -/
def misaligned (pl a : UInt32) (f : Flag) : Status :=
  if pl ≠ 0 ∧ a % pl ≠ 0 then .single f else {}

theorem misaligned_writeDone {f : Flag} (hf : f ≠ .writeDone) (pl a : UInt32) :
    (misaligned pl a f).has .writeDone = false := by
  unfold misaligned
  split
  · simpa using Ne.symm hf
  · simp

section Accesses

variable (e : Engine)

theorem checkAligned_status (a : UInt32) (f : Flag) :
    (e.checkAligned a f).status = e.status ∪ misaligned e.packetLength a f := by
  unfold checkAligned misaligned
  by_cases h : e.packetLength ≠ 0 ∧ a % e.packetLength ≠ 0
  · rw [if_pos h, if_pos h]
    rfl
  · rw [if_neg h, if_neg h, Status.union_empty]

theorem checkAligned_packetLength (a : UInt32) (f : Flag) :
    (e.checkAligned a f).packetLength = e.packetLength := by
  unfold checkAligned
  split <;> rfl

theorem checkAligned_statusReads (a : UInt32) (f : Flag) :
    (e.checkAligned a f).statusReads = e.statusReads := by
  unfold checkAligned
  split <;> rfl

/-- A status read gives the flags as they stand. -/
@[simp] theorem status_read : (Registers.status e).1 = e.status := rfl

@[simp] theorem status_afterRead : (Registers.status e).2.status = e.status := rfl

@[simp] theorem status_clearStatus (s : Status) :
    (Registers.clearStatus s e).status = e.status \ s := rfl

@[simp] theorem status_written : (Registers.written e).2.status = e.status := rfl

@[simp] theorem statusReads_written : (Registers.written e).2.statusReads = e.statusReads := rfl

@[simp] theorem status_setEnabled (on : Bool) : (Registers.setEnabled on e).status = e.status :=
  rfl

@[simp] theorem statusReads_setEnabled (on : Bool) :
    (Registers.setEnabled on e).statusReads = e.statusReads := rfl

@[simp] theorem status_setMask (m : Status) : (Registers.setMask m e).status = e.status := rfl

@[simp] theorem statusReads_setMask (m : Status) :
    (Registers.setMask m e).statusReads = e.statusReads := rfl

@[simp] theorem status_setStart (a : UInt32) :
    (Registers.setStart a e).status = e.status ∪ misaligned e.packetLength a .startUnaligned :=
  checkAligned_status e a _

@[simp] theorem statusReads_setStart (a : UInt32) :
    (Registers.setStart a e).statusReads = e.statusReads := checkAligned_statusReads e a _

@[simp] theorem packetLength_setStart (a : UInt32) :
    (Registers.setStart a e).packetLength = e.packetLength := checkAligned_packetLength e a _

@[simp] theorem status_setEnd (a : UInt32) :
    (Registers.setEnd a e).status = e.status ∪ misaligned e.packetLength a .endUnaligned :=
  checkAligned_status e a _

@[simp] theorem statusReads_setEnd (a : UInt32) :
    (Registers.setEnd a e).statusReads = e.statusReads := checkAligned_statusReads e a _

@[simp] theorem packetLength_setEnd (a : UInt32) :
    (Registers.setEnd a e).packetLength = e.packetLength := checkAligned_packetLength e a _

@[simp] theorem status_setRead (a : UInt32) :
    (Registers.setRead a e).status = e.status ∪ misaligned e.packetLength a .readUnaligned :=
  checkAligned_status e a _

@[simp] theorem statusReads_setRead (a : UInt32) :
    (Registers.setRead a e).statusReads = e.statusReads := checkAligned_statusReads e a _

end Accesses

/-- A production adds `writeDone` when it writes some bytes, and no flag when it writes none. -/
theorem produce_status {e e' : Engine} {k : UInt32} {t : Transfer}
    (h : e.produce k = .ok (t, e')) :
    e'.status = e.status ∪ if t.amount = 0 then {} else .single .writeDone := by
  obtain ⟨-, hc⟩ := produce_eq_ok_iff.mp h
  unfold commit at hc
  split at hc
  · rename_i h0
    cases hc
    rw [if_pos h0, Status.union_empty]
  · rename_i h0
    cases hadd : addWords? (e.offsetOf e.writtenAddress) t.amount with
    | error a => simp [hadd, bind, Except.bind] at hc
    | ok next =>
      simp only [hadd, bind, Except.bind, pure, Except.pure, Except.ok.injEq] at hc
      subst hc
      rw [if_neg h0]

end Engine

/-! ### One reader operation -/

namespace Reader

/-- The poll leaves no flag standing: it acknowledges exactly the flags it read. -/
theorem afterPoll_status (e : Engine) : (afterPoll e).status = {} := by
  unfold afterPoll
  split
  · rename_i h
    exact Status.eq_empty_of_isEmpty h
  · simp [Status.diff_self]

theorem afterPoll_statusReads (e : Engine) : (afterPoll e).statusReads = e.statusReads + 1 := by
  unfold afterPoll
  split <;> rfl

theorem receiveFrame_status (r : Reader) (least most : Nat) (e : Engine) :
    (r.receiveFrame least most e).status = {} := by
  unfold receiveFrame
  split <;> simp [afterPoll_status]

theorem receiveFrame_statusReads (r : Reader) (least most : Nat) (e : Engine) :
    (r.receiveFrame least most e).statusReads = e.statusReads + 1 := by
  unfold receiveFrame
  split <;> simp [afterPoll_statusReads]

/-- The flags that operation `o` raises on the engine through the addresses it programs: setup
programs the start, the end and the read address; a release of a nonzero count and a clear that
report no fault program the read address at the new done cursor (`programsRead`); no other
operation programs an address. -/
def raisedOn (r : Reader) (o : ReaderOp) (e : Engine) : Status :=
  match o with
  | .setup =>
    Engine.misaligned e.packetLength r.startAddress .startUnaligned ∪
      Engine.misaligned e.packetLength r.endAddress .endUnaligned ∪
      Engine.misaligned e.packetLength (r.addressOf r.done) .readUnaligned
  | .release _ | .clear =>
    if r.programsRead o e then
      Engine.misaligned e.packetLength
        (((r.perform o).run e).1.1.addressOf ((r.perform o).run e).1.1.done) .readUnaligned
    else {}
  | _ => {}

/-- A reader raises `Unaligned` flags only, never `writeDone`. -/
theorem raisedOn_writeDone (r : Reader) (o : ReaderOp) (e : Engine) :
    (r.raisedOn o e).has .writeDone = false := by
  cases o with
  | setup => simp [raisedOn, Engine.misaligned_writeDone]
  | release n | clear =>
    simp only [raisedOn]
    split <;> simp [Engine.misaligned_writeDone]
  | _ => rfl

/-- **What one operation does to the status.** A poll leaves no flag standing; every other
operation keeps the flags and adds those of the addresses it programs. -/
theorem perform_status (r : Reader) (o : ReaderOp) (e : Engine) :
    ((r.perform o).run e).2.status = if o.polls then {} else e.status ∪ r.raisedOn o e := by
  cases o with
  | setup => simp [setup_run, raisedOn, ReaderOp.polls, Status.union_assoc]
  | disable => simp [disable_run, raisedOn, ReaderOp.polls, Status.union_empty]
  | checkStatus =>
    simp [checkStatus, orFault_state, poll_run, afterPoll_status, ReaderOp.polls]
  | available =>
    simp [numAvailable, orFault_state, available_run, raisedOn, ReaderOp.polls,
      Status.union_empty]
  | receiveAll => simp [receiveData_state, receiveFrame_status, ReaderOp.polls]
  | receive least most => simp [receiveData_state, receiveFrame_status, ReaderOp.polls]
  | release n =>
    simp only [ReaderOp.polls, Bool.false_eq_true, if_false, raisedOn, programsRead,
      perform_release, doneWithData]
    rcases hrun : (r.release n : RegisterM Engine Reader).run.run e with ⟨f | r', e'⟩
    · -- a release that fails has touched no register
      have hs : e' = e := by
        have h := release_state_of_error (by rw [hrun])
        rwa [hrun] at h
      simp [orFault_of_error hrun, hs, Status.union_empty]
    · obtain ⟨-, -, ⟨rfl, rfl, rfl⟩ | ⟨hn, rfl, rfl⟩⟩ := release_eq_ok hrun
      · simp [orFault_of_ok hrun, Status.union_empty]
      · simp [orFault_of_ok hrun, Nat.pos_iff_ne_zero.mp hn]
        -- a reader's addresses depend on its buffer alone, which the release keeps
        rfl
  | clear =>
    simp only [ReaderOp.polls, Bool.false_eq_true, if_false, raisedOn, programsRead,
      perform_clear, clearAllData]
    cases hw : r.offsetOfAddress (Registers.written e).1 with
    | error f =>
      have hrun : (r.clear : RegisterM Engine Reader).run.run e =
          (.error f, (Registers.written e).2) := by
        rw [clear_run, hw]
      simp [orFault_of_error hrun, Status.union_empty]
    | ok w =>
      have hrun : (r.clear : RegisterM Engine Reader).run.run e =
          (.ok (r.clearedAt w), Registers.setRead (r.addressOf w) (Registers.written e).2) := by
        rw [clear_run, hw]
      simp [orFault_of_ok hrun]
      -- as for a release: the cleared reader has the same buffer, so the same addresses
      rfl

/-- A poll reads the status once; no other operation reads it. -/
theorem perform_statusReads (r : Reader) (o : ReaderOp) (e : Engine) :
    ((r.perform o).run e).2.statusReads = e.statusReads + if o.polls then 1 else 0 := by
  cases o with
  | setup => simp [setup_run, ReaderOp.polls]
  | disable => simp [disable_run, ReaderOp.polls]
  | checkStatus => simp [checkStatus, orFault_state, poll_run, afterPoll_statusReads, ReaderOp.polls]
  | available => simp [numAvailable, orFault_state, available_run, ReaderOp.polls]
  | receiveAll => simp [receiveData_state, receiveFrame_statusReads, ReaderOp.polls]
  | receive least most => simp [receiveData_state, receiveFrame_statusReads, ReaderOp.polls]
  | release n =>
    simp only [ReaderOp.polls, Bool.false_eq_true, if_false, perform_release, doneWithData,
      orFault_state, release_run]
    split_ifs <;> simp
  | clear =>
    simp only [ReaderOp.polls, Bool.false_eq_true, if_false, perform_clear, clearAllData,
      orFault_state, clear_run]
    split <;> simp

variable {β : Type} [Registers β]

/-- A status check answers whether a packet was written and no error came, and reports the error
flags as one hardware fault. -/
theorem checkStatus_run (s : β) :
    (checkStatus : StateM β (Bool × List Fault)).run s =
      (((Registers.status s).1.writeDone && !(Registers.status s).1.hasErrors,
        if (Registers.status s).1.hasErrors then [.hardware (Registers.status s).1.errors]
        else []), afterPoll s) := by
  by_cases h : (Registers.status s).1.hasErrors = true
  · have hrun : (poll : RegisterM β Bool).run.run s =
        (.error (.hardware (Registers.status s).1.errors), afterPoll s) := by
      rw [poll_run, if_pos h]
    rw [checkStatus, orFault_of_error hrun, h, if_pos rfl]
    simp
  · have hrun : (poll : RegisterM β Bool).run.run s =
        (.ok (Registers.status s).1.writeDone, afterPoll s) := by
      rw [poll_run, if_neg h]
    rw [checkStatus, orFault_of_ok hrun]
    simp [h]

/-- A written address that does not decode is refused with a fault about the address, never a
hardware fault. -/
theorem offsetOfAddress_hardwareFlags {r : Reader} {a : UInt32} {f : Fault}
    (h : r.offsetOfAddress a = .error f) : f.hardwareFlags? = none := by
  unfold offsetOfAddress at h
  split at h
  · cases h
    rfl
  split at h
  · cases h
    rfl
  · cases h

/-- A receive reports the error flags of the status it polled as its one hardware fault, and
reports no hardware fault when there are none: its later checks fault on lengths and addresses. -/
theorem receive_reports (r : Reader) (least most : Nat) (s : β) :
    ((r.receiveData least most).run s).1.2.filterMap Fault.hardwareFlags? =
      (Registers.status s).1.errorReport := by
  unfold receiveData
  rcases hrun : (r.receive least most : RegisterM β _).run.run s with ⟨f | v, s'⟩
  · rw [orFault_of_error hrun]
    rw [receive_run] at hrun
    split at hrun
    · -- the poll found error flags: they are the fault
      rename_i h0
      cases hrun
      simp [Fault.hardwareFlags?, Status.errorReport, h0]
    rename_i h0
    have hno : Status.errorReport (Registers.status s).1 = [] := by
      simp [Status.errorReport, h0]
    rw [hno]
    -- the later checks fault on a length, on their order or on the written address
    split at hrun
    · cases hrun
      rfl
    split at hrun
    · cases hrun
      rfl
    split at hrun
    · cases hrun
      rfl
    cases hw : r.offsetOfAddress (Registers.written (afterPoll s)).1 with
    | error g =>
      rw [hw] at hrun
      cases hrun
      simp [offsetOfAddress_hardwareFlags hw]
    | ok w =>
      rw [hw] at hrun
      cases hrun
  · rw [orFault_of_ok hrun]
    obtain ⟨h0, -⟩ := receive_eq_ok hrun
    simp [Status.errorReport, h0]

/-- **What a poll reports**: the error flags it read as its one hardware fault, and no hardware
fault when it read none. -/
theorem perform_reports (r : Reader) {o : ReaderOp} (ho : o.polls = true) (e : Engine) :
    ((r.perform o).run e).1.2.filterMap Fault.hardwareFlags? = e.status.errorReport := by
  cases o with
  | checkStatus =>
    rw [perform_checkStatus, checkStatus_run]
    by_cases h : e.status.hasErrors = true <;>
      simp [Status.errorReport, Fault.hardwareFlags?, h]
  | receiveAll => exact receive_reports r 0 r.size e
  | receive least most => exact receive_reports r least most e
  | _ => cases ho

end Reader

/-! ### One command from outside -/

/-- The flags a command from outside raises: programming the start, end or read address raises
that address's `Unaligned` flag when the address is off the packet grid; a production that writes
some bytes raises `writeDone`; a raise raises its flags; nothing else raises a flag. -/
def EngineCommand.raisedOn (c : EngineCommand) (e : Engine) : Status :=
  match c with
  | .call (.setStart a) => Engine.misaligned e.packetLength a .startUnaligned
  | .call (.setEnd a) => Engine.misaligned e.packetLength a .endUnaligned
  | .call (.setRead a) => Engine.misaligned e.packetLength a .readUnaligned
  | .call _ => {}
  | .event (.produce k) | .event (.produceSpans k) =>
    match e.produce k with
    | .ok (t, _) => if t.amount = 0 then {} else .single .writeDone
    | .error _ => {}
  | .event (.raise s) => s
  | .event _ => {}

/-- Whether the command leaves the status to the engine's rules: it neither acknowledges flags
nor stores a status value. -/
def EngineCommand.ordinary : EngineCommand → Bool
  | .call (.clearStatus _) | .event (.overwrite (.status _)) => false
  | _ => true

namespace Engine

/-- **What one outside command does to the status**: it keeps the flags and adds those it
raises. -/
theorem perform_status (e : Engine) {c : EngineCommand} (hc : c.ordinary = true) :
    (e.perform c).2.status = e.status ∪ c.raisedOn e := by
  cases c with
  | call c =>
    -- a register access programs at most one address; only an acknowledgement removes flags
    cases c with
    | setEnabled on => exact (Status.union_empty _).symm
    | status => exact (Status.union_empty _).symm
    | clearStatus s => cases hc
    | setMask m => exact (Status.union_empty _).symm
    | setStart a => exact checkAligned_status e a _
    | setEnd a => exact checkAligned_status e a _
    | written => exact (Status.union_empty _).symm
    | setRead a => exact checkAligned_status e a _
  | event ev =>
    cases ev with
    | produce k | produceSpans k =>
      simp only [perform, EngineCommand.raisedOn]
      rcases h : e.produce k with a | ⟨t, e'⟩
      · simp [Status.union_empty]
      · simp [produce_status h]
    | raise s => rfl
    | setWritten a =>
      simp [perform, apply, setWritten, EngineCommand.raisedOn, Status.union_empty]
    | overwrite f =>
      cases f <;>
        simp_all [perform, apply, overwrite, EngineCommand.raisedOn, EngineCommand.ordinary,
          Status.union_empty]

end Engine

/-! ### Runs -/

/-- One thing that happens to a simulated engine: an operation of a reader that drives it, or a
command from outside. -/
inductive Activity where
  | reader (r : Reader) (o : ReaderOp)
  | outside (c : EngineCommand)
deriving DecidableEq, Repr

namespace Activity

/-- The engine after the activity. -/
def step : Activity → Engine → Engine
  | reader r o, e => ((r.perform o).run e).2
  | outside c, e => (e.perform c).2

/-- Whether the activity polls the status. -/
def polls : Activity → Bool
  | reader _ o => o.polls
  | outside _ => false

/-- The flags the activity raises on the engine. -/
def raised : Activity → Engine → Status
  | reader r o, e => r.raisedOn o e
  | outside c, e => c.raisedOn e

/-- Whether the activity leaves the status to the engine's rules. -/
def ordinary : Activity → Bool
  | reader _ _ => true
  | outside c => c.ordinary

/-- What the activity reads and reports if it is a poll: the status it reads, and the flags of
the hardware faults it reports. -/
def pollOutcome : Activity → Engine → List (Status × List Status)
  | reader r o, e =>
    if o.polls then
      [((Registers.status e).1, ((r.perform o).run e).1.2.filterMap Fault.hardwareFlags?)]
    else []
  | outside _, _ => []

/-- What each poll of a run reads and reports, in the order of the polls. -/
def polled : Engine → List Activity → List (Status × List Status)
  | _, [] => []
  | e, a :: as => a.pollOutcome e ++ polled (a.step e) as

/-- The gaps of a run: for each poll, the activities since the previous poll, or since the start
of the run for the first, each with the engine it met. `gap` holds the activities since the last
poll so far. -/
def gaps (gap : List (Activity × Engine)) : Engine → List Activity → List (List (Activity × Engine))
  | _, [] => []
  | e, a :: as =>
    if a.polls then gap :: gaps [] (a.step e) as else gaps (gap ++ [(a, e)]) (a.step e) as

/-- The flags that the activities of a gap raise, each on the engine it met. -/
def flagsOf (gap : List (Activity × Engine)) : Status :=
  gap.foldr (fun p s => p.1.raised p.2 ∪ s) {}

@[simp] theorem flagsOf_nil : flagsOf [] = {} := rfl

@[simp] theorem flagsOf_cons (p : Activity × Engine) (gap : List (Activity × Engine)) :
    flagsOf (p :: gap) = p.1.raised p.2 ∪ flagsOf gap := rfl

theorem flagsOf_append_single (gap : List (Activity × Engine)) (a : Activity) (e : Engine) :
    flagsOf (gap ++ [(a, e)]) = flagsOf gap ∪ a.raised e := by
  induction gap with
  | nil => simp [Status.union_empty, Status.ext_iff]
  | cons p gap ih => rw [List.cons_append, flagsOf_cons, flagsOf_cons, ih, Status.union_assoc]

/-- A gap's flags are those that some activity of the gap raised. -/
theorem has_flagsOf (gap : List (Activity × Engine)) (f : Flag) :
    (flagsOf gap).has f = true ↔ ∃ p ∈ gap, (p.1.raised p.2).has f = true := by
  induction gap with
  | nil => simp
  | cons p gap ih => simp [ih]

/-- **One step**: a poll leaves no flag standing, and every other ordinary activity keeps the
flags and adds those it raises. -/
theorem step_status {a : Activity} (ha : a.ordinary = true) (e : Engine) :
    (a.step e).status = if a.polls then {} else e.status ∪ a.raised e := by
  cases a with
  | reader r o => exact Reader.perform_status r o e
  | outside c =>
    rw [step, Engine.perform_status e ha]
    rfl

/-- A poll reads the status as it stands and reports its error flags, if any. -/
theorem pollOutcome_of_polls {a : Activity} (hp : a.polls = true) (e : Engine) :
    a.pollOutcome e = [(e.status, e.status.errorReport)] := by
  cases a with
  | reader r o =>
    have ho : o.polls = true := hp
    rw [pollOutcome, if_pos ho, Reader.perform_reports r ho e]
    rfl
  | outside c => cases hp

theorem pollOutcome_of_not_polls {a : Activity} (hp : a.polls = false) (e : Engine) :
    a.pollOutcome e = [] := by
  cases a with
  | reader r o => simp_all [pollOutcome, polls]
  | outside c => rfl

/-- **A whole run**: each poll reads exactly the flags raised in its gap, back to the previous
poll, and reports their error flags exactly when there are some. The induction runs over the
activities, with the invariant that the status holds the flags of the gap so far. -/
theorem polled_eq_gaps (gap : List (Activity × Engine)) (e : Engine) (as : List Activity)
    (hord : ∀ a ∈ as, a.ordinary = true) (he : e.status = flagsOf gap) :
    polled e as = (gaps gap e as).map fun g => (flagsOf g, (flagsOf g).errorReport) := by
  induction as generalizing gap e with
  | nil => rfl
  | cons a as ih =>
    have ha := hord a List.mem_cons_self
    have hrest : ∀ b ∈ as, b.ordinary = true := fun b hb => hord b (List.mem_cons_of_mem a hb)
    cases hp : a.polls with
    | true =>
      -- the poll reads the gap's flags and leaves none
      have hstep : (a.step e).status = flagsOf [] := by
        rw [step_status ha e, hp, if_pos rfl, flagsOf_nil]
      rw [polled, gaps, if_pos hp, pollOutcome_of_polls hp e, ih [] (a.step e) hrest hstep, he]
      rfl
    | false =>
      -- any other activity adds its flags to the gap
      have hstep : (a.step e).status = flagsOf (gap ++ [(a, e)]) := by
        rw [step_status ha e, hp, if_neg Bool.false_ne_true, he, flagsOf_append_single]
      rw [polled, gaps, if_neg (ne_true_of_eq_false hp), pollOutcome_of_not_polls hp e,
        ih _ (a.step e) hrest hstep]
      rfl

/-- An activity raises `writeDone` exactly when it is a production that writes some bytes, or a
raise of `writeDone`. -/
theorem raised_writeDone (a : Activity) (e : Engine) :
    (a.raised e).has .writeDone = true ↔
      (∃ k t e', (a = .outside (.event (.produce k)) ∨ a = .outside (.event (.produceSpans k))) ∧
        e.produce k = .ok (t, e') ∧ t.amount ≠ 0) ∨
      ∃ s, a = .outside (.event (.raise s)) ∧ s.writeDone = true := by
  cases a with
  | reader r o => simp [raised, Reader.raisedOn_writeDone]
  | outside c =>
    cases c with
    | call c =>
      cases c <;> simp [raised, EngineCommand.raisedOn, Engine.misaligned_writeDone]
    | event ev =>
      cases ev with
      | produce k | produceSpans k =>
        simp only [raised, EngineCommand.raisedOn]
        rcases h : e.produce k with x | ⟨t, e'⟩
        · simp [h]
        · by_cases h0 : t.amount = 0 <;> simp [h, h0]
      | raise s => simp [raised, EngineCommand.raisedOn, Status.has]
      | setWritten a => simp [raised, EngineCommand.raisedOn]
      | overwrite f => simp [raised, EngineCommand.raisedOn]

end Activity

/-- **No status is lost or reported twice.** Over the simulated engine:

* every poll (a status check, or a receive, which polls first) reads the status once, leaves no
  flag standing, and reports the error flags it read as its one hardware fault exactly when there
  are some;
* a status check answers whether `writeDone` was read without an error flag;
* in a run of ordinary activities from an engine with no flag standing, as every fresh engine and
  every engine just polled is, each poll reads exactly the flags raised in the gap since the
  previous poll, and so an error flag is reported by the first poll after it is raised and by no
  later poll unless raised again;
* the flags of a gap are those some activity of it raised, and an activity raises `writeDone`
  exactly when it is a production that writes some bytes or a raise of `writeDone`. -/
theorem polls_deliver_status :
    (∀ (r : Reader) (o : ReaderOp) (e : Engine), o.polls = true →
      ((r.perform o).run e).2.status = {} ∧
      ((r.perform o).run e).2.statusReads = e.statusReads + 1 ∧
      ((r.perform o).run e).1.2.filterMap Fault.hardwareFlags? = e.status.errorReport) ∧
    (∀ e : Engine, ((Reader.checkStatus : StateM Engine (Bool × List Fault)).run e).1.1 =
      (e.status.writeDone && !e.status.hasErrors)) ∧
    (∀ (e : Engine) (as : List Activity), e.status = {} → (∀ a ∈ as, a.ordinary = true) →
      Activity.polled e as =
        (Activity.gaps [] e as).map fun g => (Activity.flagsOf g, (Activity.flagsOf g).errorReport)) ∧
    (∀ (gap : List (Activity × Engine)) (f : Flag),
      (Activity.flagsOf gap).has f = true ↔ ∃ p ∈ gap, (p.1.raised p.2).has f = true) ∧
    (∀ (a : Activity) (e : Engine),
      (a.raised e).has .writeDone = true ↔
        (∃ k t e', (a = .outside (.event (.produce k)) ∨ a = .outside (.event (.produceSpans k))) ∧
          e.produce k = .ok (t, e') ∧ t.amount ≠ 0) ∨
        ∃ s, a = .outside (.event (.raise s)) ∧ s.writeDone = true) := by
  refine ⟨fun r o e ho => ⟨?_, ?_, ?_⟩, fun e => ?_, fun e as he hord => ?_,
    Activity.has_flagsOf, Activity.raised_writeDone⟩
  · rw [Reader.perform_status, if_pos ho]
  · rw [Reader.perform_statusReads, if_pos ho]
  · exact Reader.perform_reports r ho e
  · rw [Reader.checkStatus_run]
    rfl
  · exact Activity.polled_eq_gaps [] e as hord he

/-- Two productions, each followed by an error flag, with a poll after each pair and one more
poll at the end: each poll reports the flags raised since the one before, and the last, with
nothing raised since, reports nothing. -/
theorem polls_deliver_status_sampleRun :
    let s := Reader.sampleReader.setup.run ({ packetLength := 64 } : Engine)
    let as : List Activity :=
      [.outside (.event (.produce 256)), .outside (.event (.raise { writeError := true })),
        .reader s.1 .checkStatus, .outside (.event (.produce 128)),
        .outside (.event (.raise { readUnaligned := true })), .reader s.1 .checkStatus,
        .reader s.1 (.receive 64 128)]
    s.2.status = {} ∧ (∀ a ∈ as, a.ordinary = true) ∧
      Activity.polled s.2 as = (Activity.gaps [] s.2 as).map (fun g =>
        (Activity.flagsOf g, (Activity.flagsOf g).errorReport)) ∧
      Activity.polled s.2 as =
        [({ writeDone := true, writeError := true }, [{ writeError := true }]),
          ({ writeDone := true, readUnaligned := true }, [{ readUnaligned := true }]), ({}, [])] := by
  intro s as
  have hs : s.2.status = {} := by decide
  have hord : ∀ a ∈ as, a.ordinary = true := by decide
  exact ⟨hs, hord, polls_deliver_status.2.2.1 s.2 as hs hord, by decide⟩

end PacketRing
