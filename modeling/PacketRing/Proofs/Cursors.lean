import PacketRing.Proofs.OperationSpecs
import PacketRing.Registers.Block

/-!
# The cursors of a reader move with its totals

The reader keeps two cursors, the outstanding and the done offset, as offsets below the buffer
size, and two unbounded totals, the bytes received and released since the last clear. Nothing in
the reader ties the four together; this file shows that one common base does, over every backend.

* `Reader.observedBase` — the written offset that the last successful clear observed; a clear
  that fails keeps the old one.
* `Reader.Reachable β b r` — `r` is reached from a reader that `Reader.new?` built by public
  operations over a backend `β`, each run on a backend state of its own (so the status and the
  written address may read anything at every step), and `b` is that observed base.
* `Reader.Cursors b r` — the invariant: the base, the totals and hence the cursors are whole
  packets; the released total does not pass the received one; and the outstanding and the done
  cursor are the base plus the received and the released total, modulo the size.

One lemma per operation shows that the invariant survives it (`Cursors.grant`,
`Cursors.release`, `cursors_clearedAt`, and the frame lemma `Cursors.congr` for operations that
leave the cursors alone); `Cursors.perform` puts them together, and `Reachable.cursors` follows by
induction over the run. The main statement is `Reachable.cursor_invariant`: after every step both
cursors are packet-aligned offsets inside the buffer, equal to the base plus their totals, so a
reader with nothing outstanding has its two cursors at one place.

Reading a response's bytes (`Reader.data`) changes no reader, so it needs no step here.
-/

namespace PacketRing

namespace Reader

variable {β : Type} [Registers β]

/-! ### Runs of public operations -/

/-- The written offset that the last successful clear observed, after operation `o` at backend
state `s`: a clear that decodes the written address replaces it by that offset, and every other
operation, a failing clear included, keeps `b`. -/
def observedBase (r : Reader) (b : Nat) : ReaderOp → β → Nat
  | .clear, s =>
    match ((r.writtenOffset : RegisterM β Nat).run.run s).1 with
    | .ok w => w
    | .error _ => b
  | _, _ => b

variable (β) in
/-- The readers that public operations reach from one that `Reader.new?` built, each with the
written offset that the last successful clear observed (`0` before any). Every step runs on a
backend state of its own choosing. -/
inductive Reachable : Nat → Reader → Prop
  | new {buf : Buffer} {cfg : Config} {r : Reader} : Reader.new? buf cfg = .ok r → Reachable 0 r
  | step {b : Nat} {r : Reader} (o : ReaderOp) (s : β) :
      Reachable b r → Reachable (r.observedBase b o s) ((r.perform o).run s).1.1

/-! ### The invariant -/

/-- The cursors sit at a common base plus the totals. -/
structure Cursors (b : Nat) (r : Reader) : Prop where
  wellFormed : r.WellFormed
  base_dvd : r.packetLength ∣ b
  received_dvd : r.packetLength ∣ r.received
  released_dvd : r.packetLength ∣ r.released
  released_le : r.released ≤ r.received
  outstanding_eq : r.outstanding = (b + r.received) % r.size
  done_eq : r.done = (b + r.released) % r.size

theorem cursors_new {buf : Buffer} {cfg : Config} {r : Reader} (h : Reader.new? buf cfg = .ok r) :
    Cursors 0 r := by
  obtain ⟨-, -, -, -, -, ho, hd, hrc, hrl, -⟩ := new?_eq_ok_iff.mp h
  refine ⟨wellFormed_of_new? h, Nat.dvd_zero _, ?_, ?_, ?_, ?_, ?_⟩ <;>
    simp [ho, hd, hrc, hrl]

section Invariant

variable {b : Nat} {r : Reader}

theorem Cursors.outstanding_lt (hc : Cursors b r) : r.outstanding < r.size := by
  rw [hc.outstanding_eq]
  exact Nat.mod_lt _ hc.wellFormed.size_pos

theorem Cursors.done_lt (hc : Cursors b r) : r.done < r.size := by
  rw [hc.done_eq]
  exact Nat.mod_lt _ hc.wellFormed.size_pos

theorem Cursors.dvd_outstanding (hc : Cursors b r) : r.packetLength ∣ r.outstanding := by
  rw [hc.outstanding_eq, Nat.dvd_mod_iff hc.wellFormed.packetLength_dvd_size]
  exact Nat.dvd_add hc.base_dvd hc.received_dvd

theorem Cursors.dvd_done (hc : Cursors b r) : r.packetLength ∣ r.done := by
  rw [hc.done_eq, Nat.dvd_mod_iff hc.wellFormed.packetLength_dvd_size]
  exact Nat.dvd_add hc.base_dvd hc.released_dvd

/-- A reader that agrees with `r` on everything the invariant reads keeps it: the frame of the
operations that move no cursor. -/
theorem Cursors.congr {r' : Reader} (hc : Cursors b r) (hcfg : r'.config = r.config)
    (hbuf : r'.buffer = r.buffer) (hend : r'.endAddress = r.endAddress)
    (ho : r'.outstanding = r.outstanding) (hd : r'.done = r.done)
    (hrc : r'.received = r.received) (hrl : r'.released = r.released) : Cursors b r' := by
  have hwf : r'.WellFormed := by
    obtain ⟨hacc, hendNat⟩ := hc.wellFormed
    refine ⟨?_, ?_⟩
    · rw [hcfg, hbuf]
      exact hacc
    · simp only [startAddress, size, hend, hbuf]
      exact hendNat
  have hpl : r'.packetLength = r.packetLength := by simp only [packetLength, hcfg]
  have hsize : r'.size = r.size := by simp only [size, hbuf]
  exact ⟨hwf, hpl ▸ hc.base_dvd, hpl ▸ hrc ▸ hc.received_dvd, hpl ▸ hrl ▸ hc.released_dvd,
    hrc ▸ hrl ▸ hc.released_le, by rw [ho, hrc, hsize]; exact hc.outstanding_eq,
    by rw [hd, hrl, hsize]; exact hc.done_eq⟩

theorem dvd_min_of_dvd {k m n : Nat} (hm : k ∣ m) (hn : k ∣ n) : k ∣ min m n := by
  rcases Nat.le_total m n with h | h
  · rw [Nat.min_eq_left h]
    exact hm
  · rw [Nat.min_eq_right h]
    exact hn

/-- The distance from a packet-aligned cursor forward to a packet-aligned offset is whole
packets. -/
theorem WellFormed.dvd_availableFrom (hr : r.WellFormed) (hout : r.packetLength ∣ r.outstanding)
    {w : Nat} (hw : r.packetLength ∣ w) : r.packetLength ∣ r.availableFrom w := by
  have hsize := hr.packetLength_dvd_size
  unfold availableFrom
  rw [Nat.dvd_mod_iff hsize]
  exact Nat.dvd_sub (Nat.dvd_add hw hsize) hout

/-- The count a receive hands out is a whole number of packets: it is the least of the bytes
available, `most`, and the room before the end, and each of the three is, since the size, the
outstanding cursor and the written offset are. -/
theorem WellFormed.dvd_handout (hr : r.WellFormed) (hout : r.packetLength ∣ r.outstanding)
    {most w : Nat} (hmost : r.packetLength ∣ most) (hw : r.packetLength ∣ w) :
    r.packetLength ∣ r.handout most w := by
  have hroom : r.packetLength ∣ r.size - r.outstanding :=
    Nat.dvd_sub hr.packetLength_dvd_size hout
  exact dvd_min_of_dvd (dvd_min_of_dvd (hr.dvd_availableFrom hout hw) hmost) hroom

theorem Cursors.dvd_handout (hc : Cursors b r) {most w : Nat} (hmost : r.packetLength ∣ most)
    (hw : r.packetLength ∣ w) : r.packetLength ∣ r.handout most w :=
  hc.wellFormed.dvd_handout hc.dvd_outstanding hmost hw

/-- A receive moves the outstanding cursor and the received total by the same whole number of
packets. -/
theorem Cursors.grant (hc : Cursors b r) {least most w : Nat} (hmost : r.packetLength ∣ most)
    (hw : r.packetLength ∣ w) : Cursors b (r.grant least most w).2 := by
  rcases grant_cases r least most w with h | ⟨-, h⟩
  · rw [h]
    exact hc
  rw [h]
  have hn := hc.dvd_handout hmost hw
  refine ⟨⟨hc.wellFormed.accepts, hc.wellFormed.endAddress_toNat⟩, hc.base_dvd,
    Nat.dvd_add hc.received_dvd hn, hc.released_dvd, by simp only; have := hc.released_le; omega,
    ?_, hc.done_eq⟩
  show (r.outstanding + r.handout most w) % r.size = (b + (r.received + r.handout most w)) % r.size
  rw [hc.outstanding_eq, Nat.mod_add_mod, Nat.add_assoc]

/-- A release moves the done cursor and the released total by the same whole number of packets,
no further than the received total. -/
theorem Cursors.release (hc : Cursors b r) {n : Nat} (hn : r.packetLength ∣ n)
    (hle : n ≤ r.outstandingBytes) :
    Cursors b { r with done := (r.done + n) % r.size, released := r.released + n } := by
  have hrel : r.released + n ≤ r.received := by
    unfold outstandingBytes at hle
    have := hc.released_le
    omega
  refine ⟨⟨hc.wellFormed.accepts, hc.wellFormed.endAddress_toNat⟩, hc.base_dvd, hc.received_dvd,
    Nat.dvd_add hc.released_dvd hn, hrel, hc.outstanding_eq, ?_⟩
  show (r.done + n) % r.size = (b + (r.released + n)) % r.size
  rw [hc.done_eq, Nat.mod_add_mod, Nat.add_assoc]

/-- A clear that found the written offset `w` starts the invariant afresh with base `w`. -/
theorem cursors_clearedAt (hr : r.WellFormed) {w : Nat} (hlt : w < r.size)
    (hw : r.packetLength ∣ w) : Cursors w (r.clearedAt w) := by
  refine ⟨⟨hr.accepts, hr.endAddress_toNat⟩, hw, Nat.dvd_zero _, Nat.dvd_zero _, Nat.le_refl 0,
    ?_, ?_⟩ <;>
  · show w = (w + 0) % r.size
    rw [Nat.add_zero, Nat.mod_eq_of_lt hlt]

end Invariant

/-! ### One step, and every run -/

/-- An operation that is not a successful clear keeps the observed base. -/
theorem observedBase_of_clearsAt_false {b : Nat} {r : Reader} {o : ReaderOp} {s : β}
    (h : r.clearsAt o s = false) : r.observedBase b o s = b := by
  cases o with
  | clear =>
    rw [observedBase, writtenOffset_run]
    cases hw : r.offsetOfAddress (Registers.written s).1 with
    | ok w => simp [clearsAt, hw] at h
    | error f => rfl
  | _ => rfl

/-- A successful clear observes the written offset it decoded. -/
theorem observedBase_of_clearsAt_true {b w : Nat} {r : Reader} {o : ReaderOp} {s : β}
    (h : r.clearsAt o s = true) (hw : r.offsetOfAddress (Registers.written s).1 = .ok w) :
    r.observedBase b o s = w := by
  cases o with
  | clear => rw [observedBase, writtenOffset_run, hw]
  | _ => cases h

/-- **Every public operation keeps the invariant**, with the base that the operation observed. A
failing operation gives back the reader it was given, so only the successful runs of receive,
release and clear move anything. -/
theorem Cursors.perform {b : Nat} {r : Reader} (hc : Cursors b r) (o : ReaderOp) (s : β) :
    Cursors (r.observedBase b o s) ((r.perform o).run s).1.1 := by
  rcases perform_cases r o s with
    ⟨hcl, h | ⟨on, h⟩ | ⟨least, most, w, a, hmost, hw, h⟩ | ⟨n, hn, hle, h⟩⟩ | ⟨hcl, w, hw, h⟩
  all_goals rw [h]
  · rw [observedBase_of_clearsAt_false hcl]
    exact hc
  · rw [observedBase_of_clearsAt_false hcl]
    exact hc.congr rfl rfl rfl rfl rfl rfl rfl
  · rw [observedBase_of_clearsAt_false hcl]
    exact hc.grant hmost (offsetOfAddress_eq_ok hc.wellFormed hw).2
  · rw [observedBase_of_clearsAt_false hcl]
    exact hc.release hn hle
  · -- a successful clear restarts the invariant at the offset it decoded
    rw [observedBase_of_clearsAt_true hcl hw]
    obtain ⟨hlt, hdvd⟩ := offsetOfAddress_eq_ok hc.wellFormed hw
    exact cursors_clearedAt hc.wellFormed hlt hdvd

theorem Reachable.cursors {b : Nat} {r : Reader} (h : Reachable β b r) : Cursors b r := by
  induction h with
  | new hnew => exact cursors_new hnew
  | step o s _ ih => exact ih.perform o s

/-- **Cursor invariant.** Whatever the backend's registers read, after every public operation
both cursors are packet-aligned offsets inside the buffer, the released total does not pass the
received one, and each cursor is the written offset seen by the last successful clear (`0` before
any) plus its total, modulo the size. A reader with nothing outstanding has both cursors at one
place. -/
theorem Reachable.cursor_invariant {b : Nat} {r : Reader} (h : Reachable β b r) :
    r.outstanding < r.size ∧ r.done < r.size ∧
      r.packetLength ∣ r.outstanding ∧ r.packetLength ∣ r.done ∧
      r.released ≤ r.received ∧
      r.outstanding = (b + r.received) % r.size ∧ r.done = (b + r.released) % r.size ∧
      (r.outstandingBytes = 0 → r.done = r.outstanding) := by
  have hc := h.cursors
  refine ⟨hc.outstanding_lt, hc.done_lt, hc.dvd_outstanding, hc.dvd_done, hc.released_le,
    hc.outstanding_eq, hc.done_eq, fun h0 => ?_⟩
  have heq : r.released = r.received := by
    have := hc.released_le
    unfold outstandingBytes at h0
    omega
  rw [hc.done_eq, hc.outstanding_eq, heq]

/-- A reader of the 4096 bytes at bus address `0x1000`, in packets of 64 bytes, as `Reader.new?`
builds it. -/
def sampleReader : Reader :=
  { config := { packetLength := 64 }, buffer := ⟨0, 4096, 4096⟩, endAddress := 8192 }

theorem new?_sampleReader :
    Reader.new? ⟨0, 4096, 4096⟩ { packetLength := 64 } = .ok sampleReader := by
  simp [Reader.new?, Config.check, Buffer.endAddress, sampleReader, wordMax, bind, Except.bind,
    pure, Except.pure, Except.map]

/-- The registers of `sampleReader`'s engine with no status flag and the written address 256
bytes into the buffer. -/
def sampleBlock256 : Block := Block.zero.put .written 4352

/-- `sampleReader` receives 128 of the 256 bytes written and gives back the first 64. -/
theorem reachable_release_sampleReader :
    Reachable Block 0 ((((sampleReader.perform (.receive 64 128)).run sampleBlock256).1.1.perform
      (.release 64)).run sampleBlock256).1.1 :=
  .step (.release 64) sampleBlock256
    (.step (.receive 64 128) sampleBlock256 (.new new?_sampleReader))

theorem cursor_invariant_sampleReader :
    let r₁ := ((sampleReader.perform (.receive 64 128)).run sampleBlock256).1.1
    let r₂ := ((r₁.perform (.release 64)).run sampleBlock256).1.1
    Reachable Block 0 r₂ ∧ r₂.received = 128 ∧ r₂.released = 64 ∧
      r₂.outstanding < r₂.size ∧ r₂.done < r₂.size ∧
      r₂.packetLength ∣ r₂.outstanding ∧ r₂.packetLength ∣ r₂.done ∧
      r₂.released ≤ r₂.received ∧
      r₂.outstanding = (0 + r₂.received) % r₂.size ∧ r₂.done = (0 + r₂.released) % r₂.size ∧
      (r₂.outstandingBytes = 0 → r₂.done = r₂.outstanding) := by
  have h := reachable_release_sampleReader
  exact ⟨h, by decide, by decide, Reachable.cursor_invariant h⟩

end Reader

end PacketRing
