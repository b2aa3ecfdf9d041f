import PacketRing.Proofs.OperationSpecs

/-!
# Faults are reported once, in the order of the checks, and change nothing

Each public operation makes its checks in a fixed order: the status poll finds no error flag,
the requested lengths are whole packets and in order, the written address lies in the buffer and
on a packet boundary, a release holds no more than is outstanding. The first check that fails
decides the fault. The operation then hands that one fault to the handler, gives back its fallback
(`false`, `0`, the empty response, or the reader as it was) and leaves the backend as the reads
before the fault left it: the only register write is the poll's acknowledgement of the flags it
has just read.

* `pollChecks`, `Reader.writtenChecks`, `Reader.receiveChecks`, `Reader.releaseChecks` — the
  checks of each operation in order, each with its fault, as `FirstFailure` reads them.
* `FaultsAtomically` — what a public operation's outcome keeps: exactly the first failing check's
  fault, reported once, with the fallback and the given backend.

`orFault_atomically` reduces each public operation to its run lemma: the operation fails exactly
with the first failing check, and its backend after a failure is the frame. The main statement is
`Reader.faults_atomic_ordered`.
-/

namespace PacketRing

variable {β : Type} [Registers β]

/-! ### The checks in order -/

/-- The status poll's check: no error flag is set. -/
def pollChecks (st : Status) : List (Prop × Fault) :=
  [(st.hasErrors = false, .hardware st.errors)]

namespace Reader

/-- The checks on a written address: inside the buffer, its end included, then on a packet
boundary. -/
def writtenChecks (r : Reader) (a : UInt32) : List (Prop × Fault) :=
  [(r.startAddress ≤ a ∧ a ≤ r.endAddress, .writtenOutOfRange a r.startAddress r.endAddress),
   (r.packetLength ∣ (a - r.startAddress).toNat, .writtenUnaligned a r.packetLength)]

/-- The checks of a receive, given the status and the written address it reads: the poll, both
lengths whole packets, the lengths in order, then the written address. -/
def receiveChecks (r : Reader) (least most : Nat) (st : Status) (a : UInt32) :
    List (Prop × Fault) :=
  pollChecks st ++
    [(r.packetLength ∣ least, .unalignedLength least r.packetLength),
     (r.packetLength ∣ most, .unalignedLength most r.packetLength),
     (least ≤ most, .invalidRange least most)] ++
    r.writtenChecks a

/-- The checks of a release: a whole number of packets, no more than are outstanding. -/
def releaseChecks (r : Reader) (n : Nat) : List (Prop × Fault) :=
  [(r.packetLength ∣ n, .unalignedLength n r.packetLength),
   (n ≤ r.outstandingBytes, .overRelease n r.outstandingBytes)]

end Reader

/-! ### Outcomes of public operations -/

/-- The outcome of a public operation, whose fault goes to a handler that returns: it reports the
fault `f` exactly when `f` is the fault of the first failing check, and at most one fault; on a
fault it gives the fallback and leaves the backend at `frame`. -/
structure FaultsAtomically {α : Type} (result : (α × List Fault) × β)
    (checks : List (Prop × Fault)) (fallback : α) (frame : β) : Prop where
  reports : ∀ f, result.1.2 = [f] ↔ FirstFailure checks f
  at_most_one : result.1.2 = [] ∨ ∃ f, result.1.2 = [f]
  on_fault : ∀ f, result.1.2 = [f] → result.1.1 = fallback ∧ result.2 = frame

namespace Reader

omit [Registers β] in
/-- A public operation is atomic as soon as its operation fails exactly with the first failing
check and leaves the backend at `frame` when it fails. -/
theorem orFault_atomically {α : Type} {m : RegisterM β α} {s : β} {checks : List (Prop × Fault)}
    {fallback : α} {frame : β}
    (herr : ∀ f, (m.run.run s).1 = .error f ↔ FirstFailure checks f)
    (hframe : ∀ f, (m.run.run s).1 = .error f → (m.run.run s).2 = frame) :
    FaultsAtomically ((orFault m fallback).run s) checks fallback frame := by
  rcases hrun : m.run.run s with ⟨_ | v, s'⟩
  · rename_i f
    rw [orFault_of_error hrun]
    have hs' : s' = frame := by
      have := hframe f (by rw [hrun])
      rwa [hrun] at this
    refine ⟨fun g => ?_, .inr ⟨f, rfl⟩, fun _ _ => ⟨rfl, hs'⟩⟩
    rw [← herr g, hrun]
    simp only [List.cons.injEq, and_true, Except.error.injEq]
  · rw [orFault_of_ok hrun]
    refine ⟨fun g => ?_, .inl rfl, fun _ h => nomatch h⟩
    rw [← herr g, hrun]
    simp

/-! ### Each operation fails at its first failing check -/

theorem offsetOfAddress_eq_error_iff (r : Reader) (a : UInt32) (f : Fault) :
    r.offsetOfAddress a = .error f ↔ FirstFailure (r.writtenChecks a) f := by
  simp only [writtenChecks, firstFailure_cons_iff, not_firstFailure_nil, and_false, or_false]
  unfold offsetOfAddress
  by_cases h1 : r.startAddress ≤ a ∧ a ≤ r.endAddress
  · have hin : (a < r.startAddress || r.endAddress < a) = false := by
      simp [UInt32.not_lt.mpr h1.1, UInt32.not_lt.mpr h1.2]
    rw [hin, if_neg Bool.false_ne_true]
    by_cases h2 : r.packetLength ∣ (a - r.startAddress).toNat
    · have h2' : ¬ (a - r.startAddress).toNat % r.packetLength ≠ 0 := fun h =>
        h (Nat.dvd_iff_mod_eq_zero.mp h2)
      simp only [if_neg h2', h1, h2, not_true_eq_false, false_and, true_and, or_false,
        reduceCtorEq]
    · have h2' : (a - r.startAddress).toNat % r.packetLength ≠ 0 := fun h =>
        h2 (Nat.dvd_iff_mod_eq_zero.mpr h)
      simp only [if_pos h2', h1, h2, not_true_eq_false, not_false_eq_true, false_and, true_and,
        false_or, Except.error.injEq]
      exact eq_comm
  · -- outside the buffer: below the start, or else above the end
    have hout : (a < r.startAddress || r.endAddress < a) = true := by
      by_cases hlo : a < r.startAddress
      · simp [hlo]
      · have hhi : r.endAddress < a := UInt32.not_le.mp fun hle => h1 ⟨UInt32.not_lt.mp hlo, hle⟩
        simp [hhi]
    rw [hout, if_pos rfl]
    simp only [h1, not_false_eq_true, true_and, false_and, or_false, Except.error.injEq]
    exact eq_comm

theorem poll_eq_error_iff (s : β) (f : Fault) :
    ((poll : RegisterM β Bool).run.run s).1 = .error f ↔
      FirstFailure (pollChecks (Registers.status s).1) f := by
  simp only [poll_run, pollChecks, firstFailure_cons_iff, not_firstFailure_nil, and_false,
    or_false]
  by_cases h : (Registers.status s).1.hasErrors = true
  · simp [h, eq_comm]
  · simp [h]

theorem available_eq_error_iff (r : Reader) (s : β) (f : Fault) :
    ((r.available : RegisterM β Nat).run.run s).1 = .error f ↔
      FirstFailure (r.writtenChecks (Registers.written s).1) f := by
  rw [available_run, ← offsetOfAddress_eq_error_iff]
  cases r.offsetOfAddress (Registers.written s).1 <;> simp [Except.map]

theorem clear_eq_error_iff (r : Reader) (s : β) (f : Fault) :
    ((r.clear : RegisterM β Reader).run.run s).1 = .error f ↔
      FirstFailure (r.writtenChecks (Registers.written s).1) f := by
  rw [clear_run, ← offsetOfAddress_eq_error_iff]
  cases r.offsetOfAddress (Registers.written s).1 <;> simp

theorem release_eq_error_iff (r : Reader) (n : Nat) (s : β) (f : Fault) :
    ((r.release n : RegisterM β Reader).run.run s).1 = .error f ↔
      FirstFailure (r.releaseChecks n) f := by
  simp only [release_run, releaseChecks, firstFailure_cons_iff, not_firstFailure_nil, and_false,
    or_false, Nat.dvd_iff_mod_eq_zero]
  by_cases h1 : n % r.packetLength = 0
  · by_cases h2 : n ≤ r.outstandingBytes
    · have h2' : ¬ r.outstandingBytes < n := Nat.not_lt.mpr h2
      by_cases h3 : n = 0 <;> simp [h1, h2, h2', h3]
    · simp [h1, h2, Nat.lt_of_not_le h2, eq_comm]
  · simp [h1, eq_comm]

theorem receive_eq_error_iff (r : Reader) (least most : Nat) (s : β) (f : Fault) :
    ((r.receive least most : RegisterM β _).run.run s).1 = .error f ↔
      FirstFailure (r.receiveChecks least most (Registers.status s).1
        (Registers.written (afterPoll s)).1) f := by
  simp only [receive_run, receiveChecks, pollChecks, List.cons_append, List.nil_append,
    firstFailure_cons_iff, Nat.dvd_iff_mod_eq_zero]
  -- the checks are those of the code, in its order; once they pass, the written address decides
  by_cases h0 : (Registers.status s).1.hasErrors = true
  · simp [h0, eq_comm]
  by_cases h1 : least % r.packetLength = 0
  · by_cases h2 : most % r.packetLength = 0
    · by_cases h3 : least ≤ most
      · have h3' : ¬ most < least := Nat.not_lt.mpr h3
        simp only [h0, h1, h2, h3', h3, ite_false, ne_eq, not_true_eq_false, Bool.false_eq_true,
          true_and, false_and, false_or]
        rw [← offsetOfAddress_eq_error_iff]
        cases r.offsetOfAddress (Registers.written (afterPoll s)).1 <;> simp [Except.map]
      · simp [h0, h1, h2, h3, Nat.lt_of_not_le h3, eq_comm]
    · simp [h0, h1, h2, eq_comm]
  · simp [h0, h1, eq_comm]

/-! ### Every public operation -/

/-- **Faults are atomic and reported in order.** Over any backend, for every reader and every
request: each public operation reports a fault exactly when one of its checks fails, reports the
fault of the first failing check in the order of the code and no other, and reports it once; it
then returns its fallback (`false`, `0`, the empty response with the reader as it was, or the
reader as it was), and the backend has seen only the reads before the fault and the status
poll's acknowledgement of the flags it read. -/
theorem faults_atomic_ordered (r : Reader) (s : β) (least most n : Nat) :
    FaultsAtomically (checkStatus.run s) (pollChecks (Registers.status s).1) false
        (afterPoll s) ∧
      FaultsAtomically (r.numAvailable.run s) (r.writtenChecks (Registers.written s).1) 0
        (Registers.written s).2 ∧
      FaultsAtomically ((r.receiveData least most).run s)
        (r.receiveChecks least most (Registers.status s).1 (Registers.written (afterPoll s)).1)
        (Response.empty, r) (r.receiveFrame least most s) ∧
      FaultsAtomically (r.receiveAllData.run s)
        (r.receiveChecks 0 r.size (Registers.status s).1 (Registers.written (afterPoll s)).1)
        (Response.empty, r) (r.receiveFrame 0 r.size s) ∧
      FaultsAtomically ((r.doneWithData n).run s) (r.releaseChecks n) r s ∧
      FaultsAtomically (r.clearAllData.run s) (r.writtenChecks (Registers.written s).1) r
        (Registers.written s).2 := by
  refine ⟨?_, ?_, ?_, ?_, ?_, ?_⟩
  · exact orFault_atomically (poll_eq_error_iff s) (fun _ _ => by rw [poll_run])
  · exact orFault_atomically (available_eq_error_iff r s) (fun _ _ => by rw [available_run])
  · exact orFault_atomically (receive_eq_error_iff r least most s)
      fun _ _ => receive_state_eq_frame r least most s
  · exact orFault_atomically (receive_eq_error_iff r 0 r.size s)
      fun _ _ => receive_state_eq_frame r 0 r.size s
  · exact orFault_atomically (release_eq_error_iff r n s) fun _ h => release_state_of_error h
  · exact orFault_atomically (clear_eq_error_iff r s) fun _ h => clear_state_of_error h

end Reader

end PacketRing
