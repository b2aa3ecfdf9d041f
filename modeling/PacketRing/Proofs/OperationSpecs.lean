import PacketRing.Reader.Public
import PacketRing.Proofs.Acceptance

/-!
# What each reader operation reads, writes and returns

Every operation of the reader runs against a backend `β` of any kind. This file states, once per
operation, its whole effect as a plain function of what the registers read: the value or the
fault it gives, and the backend after it. Later proofs cite these equations and never unfold an
operation again.

* `poll_run` — the status is read once; its flags are acknowledged when any is set; error flags
  are a fault carrying exactly the error flags.
* `writtenOffset_run` — the written address is read once and decoded by `offsetOfAddress`: out of
  range, then unaligned, and otherwise its offset, with the end address meaning the start.
* `receive_run` — the status poll, the two lengths, their order, then the written address; once
  these pass, `grant` decides the response from the written offset alone (`grant_cases`), and
  the backend is left at `receiveFrame` whatever the outcome.
* `release_run`, `clear_run`, `available_run`, `setup_run`, `disable_run` — likewise.
* `orFault_of_ok`, `orFault_of_error` — a public operation reports its fault once and gives its
  fallback; `perform_*` unfold `Reader.perform` into the public operations.
* `perform_cases` — all that one public operation can do to the reader, with `clearsAt` telling
  a successful clear; proofs about runs split on these cases and not on the operations.

A reader built by `Reader.new?` is `WellFormed`: its configuration accepts its buffer and its end
address is its start plus its size. Offsets decoded from a written address are then packet
aligned and inside the buffer (`offsetOfAddress_eq_ok`).
-/

namespace PacketRing

namespace Reader

/-! ### Running register operations -/

section Plumbing

variable {β : Type}

@[simp] theorem run_pure {α : Type} (a : α) (s : β) :
    (pure a : RegisterM β α).run.run s = (.ok a, s) := rfl

@[simp] theorem run_throw {α : Type} (f : Fault) (s : β) :
    (throw f : RegisterM β α).run.run s = (.error f, s) := rfl

@[simp] theorem run_pure_bind {α γ : Type} (a : α) (g : α → RegisterM β γ) (s : β) :
    ((pure a : RegisterM β α) >>= g).run.run s = (g a).run.run s := rfl

@[simp] theorem run_throw_bind {α γ : Type} (f : Fault) (g : α → RegisterM β γ) (s : β) :
    ((throw f : RegisterM β α) >>= g).run.run s = (.error f, s) := rfl

@[simp] theorem run_liftM_bind {α γ : Type} (m : StateM β α) (f : α → RegisterM β γ) (s : β) :
    ((liftM m : RegisterM β α) >>= f).run.run s = (f (m.run s).1).run.run (m.run s).2 := rfl

/-- A step that fails ends the run with its fault and its backend; one that succeeds hands its
value and backend to the rest. -/
theorem run_bind {α γ : Type} (m : RegisterM β α) (g : α → RegisterM β γ) (s : β) :
    (m >>= g).run.run s =
      match m.run.run s with
      | (.ok a, s') => (g a).run.run s'
      | (.error f, s') => (.error f, s') := by
  rw [ExceptT.run_bind, StateT.run_bind]
  rcases m.run.run s with ⟨_ | _, _⟩ <;> rfl

theorem run_discard {α : Type} (m : RegisterM β α) (s : β) :
    (discard m).run.run s = ((m.run.run s).1.map fun _ => (), (m.run.run s).2) := by
  simp only [discard, LawfulFunctor.map_const, Function.comp_apply, ExceptT.run_map,
    StateT.run_map]
  rcases m.run.run s with ⟨_ | _, _⟩ <;> rfl

section Fallback

variable {α : Type} {m : RegisterM β α} {fallback v : α} {s s' : β}

theorem orFault_of_ok (h : m.run.run s = (.ok v, s')) :
    (orFault m fallback).run s = ((v, []), s') := by
  show (match m.run.run s with
    | (.ok v, s') => ((v, []), s')
    | (.error f, s') => ((fallback, [f]), s')) = _
  rw [h]

theorem orFault_of_error {f : Fault} (h : m.run.run s = (.error f, s')) :
    (orFault m fallback).run s = ((fallback, [f]), s') := by
  show (match m.run.run s with
    | (.ok v, s') => ((v, []), s')
    | (.error f, s') => ((fallback, [f]), s')) = _
  rw [h]

/-- Routing the fault to a handler leaves the backend as the operation left it. -/
theorem orFault_state (m : RegisterM β α) (fallback : α) (s : β) :
    ((orFault m fallback).run s).2 = (m.run.run s).2 := by
  rcases h : m.run.run s with ⟨_ | _, _⟩
  · rw [orFault_of_error h]
  · rw [orFault_of_ok h]

end Fallback

end Plumbing

variable {β : Type} [Registers β]

-- A read is stated together with the bind that consumes it, so that the value read is
-- substituted everywhere at once, decidability instances of later tests included.
@[simp] theorem run_readStatus_bind {γ : Type} (f : Status → RegisterM β γ) (s : β) :
    ((liftM (Registers.readStatus : StateM β Status) : RegisterM β Status) >>= f).run.run s =
      (f (Registers.status s).1).run.run (Registers.status s).2 := rfl

@[simp] theorem run_readWritten_bind {γ : Type} (f : UInt32 → RegisterM β γ) (s : β) :
    ((liftM (Registers.readWritten : StateM β UInt32) : RegisterM β UInt32) >>= f).run.run s =
      (f (Registers.written s).1).run.run (Registers.written s).2 := rfl

@[simp] theorem run_acknowledge (st : Status) (s : β) :
    (Registers.acknowledge st : StateM β Unit).run s = ((), Registers.clearStatus st s) := rfl

@[simp] theorem run_writeRead (a : UInt32) (s : β) :
    (Registers.writeRead a : StateM β Unit).run s = ((), Registers.setRead a s) := rfl

/-! ### The status poll and the written address -/

/-- The backend after the status poll's accesses: the status is read, and the flags read are
acknowledged when there are any. -/
def afterPoll (s : β) : β :=
  if (Registers.status s).1.isEmpty then (Registers.status s).2
  else Registers.clearStatus (Registers.status s).1 (Registers.status s).2

theorem poll_run (s : β) :
    (poll : RegisterM β Bool).run.run s =
      (if (Registers.status s).1.hasErrors then .error (.hardware (Registers.status s).1.errors)
        else .ok (Registers.status s).1.writeDone, afterPoll s) := by
  simp only [poll, run_readStatus_bind, afterPoll]
  by_cases he : (Registers.status s).1.isEmpty = true <;>
    by_cases hr : (Registers.status s).1.hasErrors = true <;>
    simp only [he, hr, run_liftM_bind, run_acknowledge, run_throw_bind, run_pure, ite_true,
      ite_false, Bool.false_eq_true]

/-- Decodes a written address: it must lie between the start and the end address, both included,
and on a packet boundary; its offset is taken modulo the size, so the end means the start. -/
def offsetOfAddress (r : Reader) (a : UInt32) : Except Fault Nat :=
  if a < r.startAddress || r.endAddress < a then
    .error (.writtenOutOfRange a r.startAddress r.endAddress)
  else if (a - r.startAddress).toNat % r.packetLength ≠ 0 then
    .error (.writtenUnaligned a r.packetLength)
  else .ok ((a - r.startAddress).toNat % r.size)

theorem writtenOffset_run (r : Reader) (s : β) :
    (r.writtenOffset : RegisterM β Nat).run.run s =
      (r.offsetOfAddress (Registers.written s).1, (Registers.written s).2) := by
  simp only [writtenOffset, run_readWritten_bind, offsetOfAddress]
  split
  · rfl
  · split <;> rfl

theorem available_run (r : Reader) (s : β) :
    (r.available : RegisterM β Nat).run.run s =
      ((r.offsetOfAddress (Registers.written s).1).map r.availableFrom,
        (Registers.written s).2) := by
  simp only [available, run_bind, writtenOffset_run]
  cases r.offsetOfAddress (Registers.written s).1 <;> rfl

omit [Registers β] in
theorem checkLength_run (r : Reader) (n : Nat) (s : β) :
    (r.checkLength n : RegisterM β Unit).run.run s =
      (if n % r.packetLength ≠ 0 then .error (.unalignedLength n r.packetLength) else .ok (),
        s) := by
  unfold checkLength
  split <;> rfl

/-! ### Receive, release and clear -/

/-- How many bytes a receive hands out from the written offset `w`: those available, at most
`most`, and none past the end of the buffer. -/
def handout (r : Reader) (most w : Nat) : Nat :=
  min (min (r.availableFrom w) most) (r.size - r.outstanding)

/-- The response and the reader that a receive gives once its checks have passed and the written
offset is `w`: nothing when fewer than `least` bytes are available, and otherwise the `handout`
from the outstanding cursor. -/
def grant (r : Reader) (least most w : Nat) : Response × Reader :=
  if r.availableFrom w < least then (Response.empty, r)
  else
    let n := r.handout most w
    if n = 0 then (Response.empty, r)
    else
      ({ numBytes := n, region := some r.buffer.region, offset := r.outstanding,
          position := r.received, epoch := r.epoch },
        { r with outstanding := (r.outstanding + n) % r.size, received := r.received + n })

/-- A receive's result: the empty response with the reader unchanged, or a run of whole bytes at
the outstanding cursor, with the cursor and the received total moved past it. -/
theorem grant_cases (r : Reader) (least most w : Nat) :
    r.grant least most w = (Response.empty, r) ∨
      (r.handout most w ≠ 0 ∧ r.grant least most w =
        ({ numBytes := r.handout most w, region := some r.buffer.region, offset := r.outstanding,
            position := r.received, epoch := r.epoch },
          { r with outstanding := (r.outstanding + r.handout most w) % r.size,
                   received := r.received + r.handout most w })) := by
  unfold grant handout
  split
  · exact .inl rfl
  dsimp only
  split
  · exact .inl rfl
  · exact .inr ⟨‹_›, rfl⟩

theorem receive_run (r : Reader) (least most : Nat) (s : β) :
    (r.receive least most : RegisterM β _).run.run s =
      if (Registers.status s).1.hasErrors then
        (.error (.hardware (Registers.status s).1.errors), afterPoll s)
      else if least % r.packetLength ≠ 0 then
        (.error (.unalignedLength least r.packetLength), afterPoll s)
      else if most % r.packetLength ≠ 0 then
        (.error (.unalignedLength most r.packetLength), afterPoll s)
      else if most < least then (.error (.invalidRange least most), afterPoll s)
      else
        ((r.offsetOfAddress (Registers.written (afterPoll s)).1).map (r.grant least most),
          (Registers.written (afterPoll s)).2) := by
  simp only [receive, run_bind, run_discard, poll_run, checkLength_run]
  -- the checks are taken in the order of the code, each closing the cases where it fails
  by_cases h0 : (Registers.status s).1.hasErrors = true
  · simp only [h0, ite_true, Except.map]
  by_cases h1 : least % r.packetLength ≠ 0
  · simp only [h0, h1, ite_true, ite_false, Bool.false_eq_true, Except.map, ne_eq,
      not_false_eq_true]
  by_cases h2 : most % r.packetLength ≠ 0
  · simp only [h0, h1, h2, ite_true, ite_false, Bool.false_eq_true, Except.map, ne_eq,
      not_false_eq_true]
  by_cases h3 : most < least
  · simp only [h0, h1, h2, h3, ite_true, ite_false, Bool.false_eq_true, Except.map,
      run_throw_bind]
  simp only [h0, h1, h2, h3, ite_false, Bool.false_eq_true, Except.map, run_bind,
    writtenOffset_run]
  cases r.offsetOfAddress (Registers.written (afterPoll s)).1 with
  | error f => rfl
  | ok w =>
    simp only [grant, handout]
    by_cases h4 : r.availableFrom w < least
    · simp only [h4, ite_true, run_pure]
    · by_cases h5 : min (min (r.availableFrom w) most) (r.size - r.outstanding) = 0
      · simp only [h4, h5, ite_true, ite_false, run_pure]
      · simp only [h4, h5, ite_false, run_pure]

/-- The backend after a receive: after the status poll, and after the read of the written address
as well once the poll and the lengths have passed. -/
def receiveFrame (r : Reader) (least most : Nat) (s : β) : β :=
  if (Registers.status s).1.hasErrors = false ∧ r.packetLength ∣ least ∧
      r.packetLength ∣ most ∧ least ≤ most then
    (Registers.written (afterPoll s)).2
  else afterPoll s

/-- A receive leaves the backend after the poll, and after the read of the written address once
the poll and the lengths have passed; it writes no register but the poll's acknowledgement. -/
theorem receive_state_eq_frame (r : Reader) (least most : Nat) (s : β) :
    ((r.receive least most : RegisterM β _).run.run s).2 = r.receiveFrame least most s := by
  rw [receive_run]
  unfold receiveFrame
  simp only [Nat.dvd_iff_mod_eq_zero]
  by_cases h0 : (Registers.status s).1.hasErrors = true
  · simp [h0]
  by_cases h1 : least % r.packetLength = 0
  · by_cases h2 : most % r.packetLength = 0
    · by_cases h3 : least ≤ most
      · have h3' : ¬ most < least := Nat.not_lt.mpr h3
        simp [h0, h1, h2, h3, h3']
      · simp [h0, h1, h2, h3, Nat.lt_of_not_le h3]
    · simp [h0, h1, h2]
  · simp [h0, h1]

theorem release_run (r : Reader) (n : Nat) (s : β) :
    (r.release n : RegisterM β Reader).run.run s =
      if n % r.packetLength ≠ 0 then (.error (.unalignedLength n r.packetLength), s)
      else if r.outstandingBytes < n then (.error (.overRelease n r.outstandingBytes), s)
      else if n = 0 then (.ok r, s)
      else
        (.ok { r with done := (r.done + n) % r.size, released := r.released + n },
          Registers.setRead (r.addressOf ((r.done + n) % r.size)) s) := by
  simp only [release, run_bind, checkLength_run]
  by_cases h1 : n % r.packetLength ≠ 0
  · simp only [h1, ne_eq, not_false_eq_true, ite_true]
  by_cases h2 : r.outstandingBytes < n
  · simp only [h1, h2, ite_true, ite_false, run_throw_bind]
  by_cases h3 : n = 0
  · subst h3
    simp only [h1, h2, ite_true, ite_false, run_pure]
  simp only [h1, h2, h3, ite_false, run_liftM_bind, run_writeRead, run_pure]

/-- The reader after a clear that found the engine at written offset `w`: both cursors at `w`,
both totals zero, and the epoch one further. -/
def clearedAt (r : Reader) (w : Nat) : Reader :=
  { r with outstanding := w, done := w, received := 0, released := 0, epoch := r.epoch + 1 }

theorem clear_run (r : Reader) (s : β) :
    (r.clear : RegisterM β Reader).run.run s =
      match r.offsetOfAddress (Registers.written s).1 with
      | .ok w => (.ok (r.clearedAt w), Registers.setRead (r.addressOf w) (Registers.written s).2)
      | .error f => (.error f, (Registers.written s).2) := by
  simp only [clear, run_bind, writtenOffset_run]
  cases r.offsetOfAddress (Registers.written s).1 <;> rfl

theorem setup_run (r : Reader) (s : β) :
    (r.setup : StateM β Reader).run s =
      ({ r with enabled := true },
        Registers.setEnabled true (Registers.setMask r.config.mask
          (Registers.setRead (r.addressOf r.done)
            (Registers.setEnd r.endAddress (Registers.setStart r.startAddress s))))) := rfl

theorem disable_run (r : Reader) (s : β) :
    (r.disable : StateM β Reader).run s = ({ r with enabled := false },
      Registers.setEnabled false s) := rfl

/-! ### Successful runs -/

section Success

variable {r : Reader} {s s' : β}

/-- A receive that succeeds passed every check, and its result is the `grant` at the written
offset it read. -/
theorem receive_eq_ok {least most : Nat} {v : Response × Reader}
    (h : (r.receive least most : RegisterM β _).run.run s = (.ok v, s')) :
    (Registers.status s).1.hasErrors = false ∧ r.packetLength ∣ least ∧ r.packetLength ∣ most ∧
      least ≤ most ∧ ∃ w, r.offsetOfAddress (Registers.written (afterPoll s)).1 = .ok w ∧
        v = r.grant least most w ∧ s' = (Registers.written (afterPoll s)).2 := by
  rw [receive_run] at h
  split at h
  · cases h
  rename_i h0
  split at h
  · cases h
  rename_i h1
  split at h
  · cases h
  rename_i h2
  split at h
  · cases h
  rename_i h3
  refine ⟨by simpa using h0, Nat.dvd_of_mod_eq_zero (by simpa using h1),
    Nat.dvd_of_mod_eq_zero (by simpa using h2), by omega, ?_⟩
  cases hw : r.offsetOfAddress (Registers.written (afterPoll s)).1 with
  | error f => rw [hw] at h; cases h
  | ok w =>
    rw [hw] at h
    cases h
    exact ⟨w, rfl, rfl, rfl⟩

/-- A release that succeeds had a whole number of packets, no more than are outstanding; it
changes nothing for zero bytes, and otherwise advances the done cursor and writes it out. -/
theorem release_eq_ok {n : Nat} {r' : Reader}
    (h : (r.release n : RegisterM β Reader).run.run s = (.ok r', s')) :
    r.packetLength ∣ n ∧ n ≤ r.outstandingBytes ∧
      ((n = 0 ∧ r' = r ∧ s' = s) ∨
        (0 < n ∧ r' = { r with done := (r.done + n) % r.size, released := r.released + n } ∧
          s' = Registers.setRead (r.addressOf ((r.done + n) % r.size)) s)) := by
  rw [release_run] at h
  split at h
  · cases h
  rename_i h1
  split at h
  · cases h
  rename_i h2
  refine ⟨Nat.dvd_of_mod_eq_zero (by simpa using h1), by omega, ?_⟩
  split at h
  · cases h
    exact Or.inl ⟨by assumption, rfl, rfl⟩
  · cases h
    exact Or.inr ⟨by omega, rfl, rfl⟩

/-- A clear that succeeds decoded the written address it read, and moved to that offset. -/
theorem clear_eq_ok {r' : Reader} (h : (r.clear : RegisterM β Reader).run.run s = (.ok r', s')) :
    ∃ w, r.offsetOfAddress (Registers.written s).1 = .ok w ∧ r' = r.clearedAt w ∧
      s' = Registers.setRead (r.addressOf w) (Registers.written s).2 := by
  rw [clear_run] at h
  cases hw : r.offsetOfAddress (Registers.written s).1 with
  | error f => rw [hw] at h; cases h
  | ok w =>
    rw [hw] at h
    cases h
    exact ⟨w, rfl, rfl, rfl⟩

/-- A release that fails has touched no register: it checks before it writes. -/
theorem release_state_of_error {n : Nat} {f : Fault}
    (h : ((r.release n : RegisterM β Reader).run.run s).1 = .error f) :
    ((r.release n : RegisterM β Reader).run.run s).2 = s := by
  rcases hrun : (r.release n : RegisterM β Reader).run.run s with ⟨x, s'⟩
  rw [hrun] at h
  rw [release_run] at hrun
  repeat' split at hrun
  all_goals cases hrun
  all_goals first
    | rfl
    | cases h

/-- A clear that fails has only read the written address. -/
theorem clear_state_of_error {f : Fault}
    (h : ((r.clear : RegisterM β Reader).run.run s).1 = .error f) :
    ((r.clear : RegisterM β Reader).run.run s).2 = (Registers.written s).2 := by
  rw [clear_run] at h ⊢
  cases hw : r.offsetOfAddress (Registers.written s).1 with
  | ok w =>
    rw [hw] at h
    cases h
  | error g => rfl

end Success

/-! ### Public operations -/

@[simp] theorem perform_setup (r : Reader) (s : β) :
    (r.perform .setup).run s = (((r.setup.run s).1, []), (r.setup.run s).2) := rfl

@[simp] theorem perform_disable (r : Reader) (s : β) :
    (r.perform .disable).run s = (((r.disable.run s).1, []), (r.disable.run s).2) := rfl

@[simp] theorem perform_checkStatus (r : Reader) (s : β) :
    (r.perform .checkStatus).run s =
      ((r, (checkStatus.run s).1.2), (checkStatus.run s).2) := rfl

@[simp] theorem perform_available (r : Reader) (s : β) :
    (r.perform .available).run s =
      ((r, (r.numAvailable.run s).1.2), (r.numAvailable.run s).2) := rfl

@[simp] theorem perform_receive (r : Reader) (least most : Nat) (s : β) :
    (r.perform (.receive least most)).run s =
      ((((r.receiveData least most).run s).1.1.2, ((r.receiveData least most).run s).1.2),
        ((r.receiveData least most).run s).2) := rfl

@[simp] theorem perform_receiveAll (r : Reader) (s : β) :
    (r.perform .receiveAll).run s = (r.perform (.receive 0 r.size)).run s := rfl

@[simp] theorem perform_release (r : Reader) (n : Nat) (s : β) :
    (r.perform (.release n)).run s = (r.doneWithData n).run s := rfl

@[simp] theorem perform_clear (r : Reader) (s : β) :
    (r.perform .clear).run s = r.clearAllData.run s := rfl

/-- Whether operation `o` at backend state `s` is a clear that succeeds, which it does exactly
when the written address decodes. -/
def clearsAt (r : Reader) : ReaderOp → β → Bool
  | .clear, s =>
    match r.offsetOfAddress (Registers.written s).1 with
    | .ok _ => true
    | .error _ => false
  | _, _ => false

/-- **What one public operation can do to the reader**: leave it as it was, switch it on or off,
hand out bytes from a decoded written offset, or give back bytes; or, for a clear that decodes
the written address, move both cursors there. Proofs about runs split on these cases and never
on the operations again. -/
theorem perform_cases (r : Reader) (o : ReaderOp) (s : β) :
    (r.clearsAt o s = false ∧
      (((r.perform o).run s).1.1 = r ∨
        (∃ on, ((r.perform o).run s).1.1 = { r with enabled := on }) ∨
        (∃ least most w a, r.packetLength ∣ most ∧ r.offsetOfAddress a = .ok w ∧
          ((r.perform o).run s).1.1 = (r.grant least most w).2) ∨
        (∃ n, r.packetLength ∣ n ∧ n ≤ r.outstandingBytes ∧
          ((r.perform o).run s).1.1 =
            { r with done := (r.done + n) % r.size, released := r.released + n }))) ∨
    (r.clearsAt o s = true ∧ ∃ w, r.offsetOfAddress (Registers.written s).1 = .ok w ∧
      ((r.perform o).run s).1.1 = r.clearedAt w) := by
  cases o with
  | setup => exact .inl ⟨rfl, .inr (.inl ⟨true, rfl⟩)⟩
  | disable => exact .inl ⟨rfl, .inr (.inl ⟨false, rfl⟩)⟩
  | checkStatus => exact .inl ⟨rfl, .inl rfl⟩
  | available => exact .inl ⟨rfl, .inl rfl⟩
  | receiveAll | receive least most =>
    refine .inl ⟨rfl, ?_⟩
    simp only [perform_receiveAll, perform_receive, receiveData]
    rcases hrun : (r.receive _ _ : RegisterM β _).run.run s with ⟨_ | v, s'⟩
    · rw [orFault_of_error hrun]
      exact .inl rfl
    · rw [orFault_of_ok hrun]
      obtain ⟨-, -, hmost, -, w, hw, rfl, -⟩ := receive_eq_ok hrun
      exact .inr (.inr (.inl ⟨_, _, w, _, hmost, hw, rfl⟩))
  | release n =>
    refine .inl ⟨rfl, ?_⟩
    simp only [perform_release, doneWithData]
    rcases hrun : (r.release n : RegisterM β Reader).run.run s with ⟨_ | r', s'⟩
    · rw [orFault_of_error hrun]
      exact .inl rfl
    · rw [orFault_of_ok hrun]
      obtain ⟨hn, hle, ⟨-, rfl, -⟩ | ⟨-, rfl, -⟩⟩ := release_eq_ok hrun
      · exact .inl rfl
      · exact .inr (.inr (.inr ⟨n, hn, hle, rfl⟩))
  | clear =>
    simp only [perform_clear, clearAllData, clearsAt]
    -- a clear succeeds exactly when the written address decodes
    cases hw : r.offsetOfAddress (Registers.written s).1 with
    | error f =>
      have hrun : (r.clear : RegisterM β Reader).run.run s = (.error f, (Registers.written s).2) := by
        rw [clear_run, hw]
      rw [orFault_of_error hrun]
      exact .inl ⟨rfl, .inl rfl⟩
    | ok w =>
      have hrun : (r.clear : RegisterM β Reader).run.run s =
          (.ok (r.clearedAt w), Registers.setRead (r.addressOf w) (Registers.written s).2) := by
        rw [clear_run, hw]
      rw [orFault_of_ok hrun]
      exact .inr ⟨rfl, w, rfl, rfl⟩

/-! ### Well-formed readers -/

/-- A reader whose configuration accepts its buffer, and whose end address is its start plus its
size; every reader that `Reader.new?` builds is one, and no operation changes either part. -/
structure WellFormed (r : Reader) : Prop where
  accepts : r.config.Accepts r.buffer
  endAddress_toNat : r.endAddress.toNat = r.startAddress.toNat + r.size

theorem wellFormed_of_new? {buf : Buffer} {cfg : Config} {r : Reader}
    (h : Reader.new? buf cfg = .ok r) : r.WellFormed := by
  obtain ⟨hacc, hc, hb, he, -⟩ := new?_eq_ok_iff.mp h
  subst hc hb
  exact ⟨hacc, he⟩

section WellFormed

variable {r : Reader} (hr : r.WellFormed)
include hr

theorem WellFormed.size_pos : 0 < r.size := hr.accepts.size_pos

theorem WellFormed.packetLength_pos : 0 < r.packetLength := hr.accepts.packetLength_pos

theorem WellFormed.packetLength_dvd_size : r.packetLength ∣ r.size := hr.accepts.size_dvd

/-- The address of an offset inside the buffer is the start plus the offset: the sum does not
wrap. -/
theorem WellFormed.addressOf_toNat {off : Nat} (h : off < r.size) :
    (r.addressOf off).toNat = r.startAddress.toNat + off := by
  have hend : r.startAddress.toNat + r.size ≤ wordMax := hr.accepts.end_le
  unfold wordMax at hend
  have hoff : off.toUInt32.toNat = off := by
    simp only [Nat.toUInt32_eq, UInt32.toNat_ofNat']
    exact Nat.mod_eq_of_lt (by omega)
  rw [addressOf, UInt32.toNat_add, hoff]
  exact Nat.mod_eq_of_lt (by omega)

/-- A written address that decodes gives a packet-aligned offset inside the buffer. -/
theorem offsetOfAddress_eq_ok {a : UInt32} {w : Nat} (h : r.offsetOfAddress a = .ok w) :
    w < r.size ∧ r.packetLength ∣ w := by
  unfold offsetOfAddress at h
  split at h
  · cases h
  split at h
  · cases h
  rename_i hal
  cases h
  refine ⟨Nat.mod_lt _ hr.size_pos, ?_⟩
  exact (Nat.dvd_mod_iff hr.packetLength_dvd_size).mpr
    (Nat.dvd_of_mod_eq_zero (Classical.not_not.mp hal))

end WellFormed

end Reader

end PacketRing
