import Mathlib
import PacketRing.Proofs.Cursors
import PacketRing.Proofs.EngineSpecs

/-!
# Reader and simulated engine pass a lossless byte stream

A reader and the simulated engine it drives share one ring. The engine writes whole packets at
its written address and never passes the read address; the reader hands out bytes up to the
written address and moves the read address when bytes are given back. Between two successful
clears the bytes form one stream: the engine has produced `p` of them, the reader has received
`received` and released `released`, and the three counts sit in the ring at a common base `b`,
the written offset seen by the last clear.

* `Reader.producedAfter` — the bytes produced since the last successful clear, after one reader
  operation: a clear that decodes the written address starts the count again.
* `Reader.Streaming p b r e` — the runs: a fresh reader and engine of one packet length, the
  reader's setup first, then any interleaving of productions and reader operations.
* `Reader.Stream p b r e` — the invariant: the counts are ordered `released ≤ received ≤ p`,
  the engine has room for no more than the buffer less one packet beyond `released`, and the
  engine's written and read addresses are the start plus the base plus `p` and `released`,
  modulo the size.

A production keeps the invariant because the free space the engine computes is exactly the room
the invariant leaves (`Stream.produce`); a receive, because the bytes available to the reader
are exactly `p - received` (`Stream.grant`); a release and a clear, because they program the
read address with the offset they move to (`Stream.release`, `Stream.clear`). `Stream.perform`
collects the reader's operations, `Streaming.stream` follows by induction over the run, and
`Streaming.lossless` states what a run keeps.
-/

namespace PacketRing

/-- The distance forward from `x` to `x + d` around a ring of `S` places is `d`, when `d < S`:
the ring arithmetic of the reader's available count and of the engine's unreleased count. -/
theorem ring_distance {S x d : Nat} (hd : d < S) : ((x + d) % S + S - x % S) % S = d := by
  have hx : x % S < S := Nat.mod_lt _ (by omega)
  rw [Nat.add_mod x d, Nat.mod_eq_of_lt hd]
  by_cases hwrap : x % S + d < S
  · rw [Nat.mod_eq_of_lt hwrap, show x % S + d + S - x % S = d + S by omega, Nat.add_mod_right,
      Nat.mod_eq_of_lt hd]
  · have hsub : (x % S + d) % S = x % S + d - S := by
      rw [Nat.mod_eq_sub_mod (by omega), Nat.mod_eq_of_lt (by omega)]
    rw [hsub, show x % S + d - S + S - x % S = d by omega, Nat.mod_eq_of_lt hd]

namespace Reader

/-! ### Runs of reader and engine -/

/-- The bytes produced since the last successful clear, after operation `o` at engine state `e`:
a clear that decodes the written address starts the count again, and every other operation, a
failing clear included, keeps `p`. -/
def producedAfter (r : Reader) (p : Nat) : ReaderOp → Engine → Nat
  | .clear, e =>
    match ((r.writtenOffset : RegisterM Engine Nat).run.run e).1 with
    | .ok _ => 0
    | .error _ => p
  | _, _ => p

/-- The states of a reader and the simulated engine it drives, with the bytes produced since the
last successful clear and the written offset that clear observed. Both start fresh with one
packet length and a buffer of at most `2 ^ 31` bytes, the reader's setup runs first, and then the
engine produces and the reader runs any operation but setup, in any order. -/
inductive Streaming : Nat → Nat → Reader → Engine → Prop
  | setup {buf : Buffer} {cfg : Config} {r : Reader} {pl : UInt32} {e : Engine} :
      Reader.new? buf cfg = .ok r → Engine.new? pl = .ok e → pl.toNat = cfg.packetLength →
      buf.size ≤ 2 ^ 31 → Streaming 0 0 (r.setup.run e).1 (r.setup.run e).2
  | produce {p b : Nat} {r : Reader} {e e' : Engine} {k : UInt32} {t : Transfer} :
      Streaming p b r e → e.produce k = .ok (t, e') → Streaming (p + t.amount.toNat) b r e'
  | perform {p b : Nat} {r : Reader} {e : Engine} (o : ReaderOp) :
      o ≠ .setup → Streaming p b r e →
      Streaming (r.producedAfter p o e) (r.observedBase b o e) ((r.perform o).run e).1.1
        ((r.perform o).run e).2

/-! ### The invariant -/

/-- The reader's totals and the engine's addresses describe one stream of `p` bytes from base
`b`. -/
structure Stream (p b : Nat) (r : Reader) (e : Engine) : Prop where
  cursors : Cursors b r
  size_le : r.size ≤ 2 ^ 31
  packetLength_eq : e.packetLength.toNat = r.packetLength
  start_eq : e.startAddress = r.startAddress
  end_eq : e.endAddress = r.endAddress
  no_errors : e.status.hasErrors = false
  received_le : r.received ≤ p
  produced_le : p ≤ r.released + (r.size - r.packetLength)
  produced_dvd : r.packetLength ∣ p
  written_eq : e.writtenAddress.toNat = r.startAddress.toNat + (b + p) % r.size
  read_eq : e.readAddress.toNat = r.startAddress.toNat + (b + r.released) % r.size

section Invariant

variable {p b : Nat} {r : Reader} {e : Engine}

theorem Stream.engine_size (hs : Stream p b r e) : e.size.toNat = r.size := by
  rw [Engine.size_toNat, hs.end_eq, hs.start_eq, hs.cursors.wellFormed.endAddress_toNat]
  omega

theorem Stream.packetLength_ne (hs : Stream p b r e) : e.packetLength ≠ 0 := by
  intro h
  have := hs.cursors.wellFormed.packetLength_pos
  rw [← hs.packetLength_eq, h] at this
  exact Nat.lt_irrefl 0 this

/-- The bytes the engine has produced and the reader not yet released are less than a buffer. -/
theorem Stream.unreleased_lt (hs : Stream p b r e) : p - r.released < r.size := by
  have := hs.produced_le
  have := hs.cursors.wellFormed.packetLength_pos
  have := hs.cursors.wellFormed.size_pos
  omega

/-- An address of the buffer at a packet-aligned offset is aligned for the engine. -/
theorem Stream.dvd_address (hs : Stream p b r e) {off : Nat} (hlt : off < r.size)
    (hoff : r.packetLength ∣ off) : e.packetLength.toNat ∣ (r.addressOf off).toNat := by
  rw [hs.packetLength_eq, hs.cursors.wellFormed.addressOf_toNat hlt]
  exact Nat.dvd_add hs.cursors.wellFormed.accepts.address_dvd hoff

/-- The engine sees its written address at offset `b + p`, modulo the size. -/
theorem Stream.written_offset (hs : Stream p b r e) :
    (e.offsetOf e.writtenAddress).toNat = (b + p) % r.size := by
  have hlt : (b + p) % r.size < e.size.toNat := by
    rw [hs.engine_size]
    exact Nat.mod_lt _ hs.cursors.wellFormed.size_pos
  exact Engine.offsetOf_toNat (hs.start_eq ▸ hs.written_eq) hlt

/-- The engine sees its read address at offset `b + released`, modulo the size. -/
theorem Stream.read_offset (hs : Stream p b r e) :
    (e.offsetOf e.readAddress).toNat = (b + r.released) % r.size := by
  have hlt : (b + r.released) % r.size < e.size.toNat := by
    rw [hs.engine_size]
    exact Nat.mod_lt _ hs.cursors.wellFormed.size_pos
  exact Engine.offsetOf_toNat (hs.start_eq ▸ hs.read_eq) hlt

/-- The reader decodes the engine's written address as the base plus `p`, modulo the size. -/
theorem Stream.offsetOfAddress_written (hs : Stream p b r e) :
    r.offsetOfAddress e.writtenAddress = .ok ((b + p) % r.size) := by
  have hwf := hs.cursors.wellFormed
  have hlt : (b + p) % r.size < r.size := Nat.mod_lt _ hwf.size_pos
  have hw := hs.written_eq
  have hend := hwf.endAddress_toNat
  have hlo : ¬ e.writtenAddress < r.startAddress := by
    rw [UInt32.lt_iff_toNat_lt]
    omega
  have hhi : ¬ r.endAddress < e.writtenAddress := by
    rw [UInt32.lt_iff_toNat_lt]
    omega
  have hle : r.startAddress ≤ e.writtenAddress := by
    rw [UInt32.le_iff_toNat_le]
    omega
  have hoff : (e.writtenAddress - r.startAddress).toNat = (b + p) % r.size := by
    rw [UInt32.toNat_sub_of_le _ _ hle]
    omega
  have hdvd : r.packetLength ∣ (b + p) % r.size :=
    (Nat.dvd_mod_iff hwf.packetLength_dvd_size).mpr
      (Nat.dvd_add hs.cursors.base_dvd hs.produced_dvd)
  unfold offsetOfAddress
  simp only [hlo, hhi, decide_false, Bool.or_self, Bool.false_eq_true, ite_false, hoff,
    Nat.mod_eq_zero_of_dvd hdvd, ne_eq, not_true_eq_false, Nat.mod_eq_of_lt hlt]

/-- The bytes available to the reader at the written offset are those produced and not yet
received. -/
theorem Stream.availableFrom_written (hs : Stream p b r e) :
    r.availableFrom ((b + p) % r.size) = p - r.received := by
  have hlt : p - r.received < r.size := by
    have := hs.unreleased_lt
    have := hs.cursors.released_le
    omega
  have hsum : b + p = b + r.received + (p - r.received) := by
    have := hs.received_le
    omega
  rw [availableFrom, hs.cursors.outstanding_eq, hsum]
  exact ring_distance hlt

/-- The engine's free space is the room the invariant leaves: the buffer less one packet less the
bytes produced and not yet released. -/
theorem Stream.free_eq (hs : Stream p b r e) :
    ∃ f, e.free = .ok f ∧ f.toNat = r.size - r.packetLength - (p - r.released) := by
  have hS := hs.engine_size
  have hpos : 0 < e.size.toNat := hS ▸ hs.cursors.wellFormed.size_pos
  have hw := hs.written_offset
  have hr := hs.read_offset
  obtain ⟨f, hf, hft⟩ := Engine.free_eq hpos (hS ▸ hs.size_le)
  refine ⟨f, hf, ?_⟩
  have hsum : b + p = b + r.released + (p - r.released) := by
    have := hs.received_le
    have := hs.cursors.released_le
    omega
  rw [hft, hw, hr, hS, hs.packetLength_eq, hsum, ring_distance hs.unreleased_lt]

end Invariant

/-! ### One step of the engine -/

section Production

variable {p b : Nat} {r : Reader} {e e' : Engine}

/-- A production never aborts while the invariant holds. -/
theorem Stream.produce_ok (hs : Stream p b r e) (k : UInt32) :
    ∃ t e', e.produce k = .ok (t, e') := by
  have hpos : 0 < e.size.toNat := hs.engine_size ▸ hs.cursors.wellFormed.size_pos
  obtain ⟨f, hf, -⟩ := hs.free_eq
  obtain ⟨t, ht, -⟩ := Engine.produce_eq hpos (hs.engine_size ▸ hs.size_le) hs.packetLength_ne hf k
  exact ⟨t, _, ht⟩

/-- **A production keeps the stream**: the engine writes no more than the room the invariant
leaves, in whole packets, and its written address moves on by what it wrote. -/
theorem Stream.produce (hs : Stream p b r e) {k : UInt32} {t : Transfer}
    (h : e.produce k = .ok (t, e')) : Stream (p + t.amount.toNat) b r e' := by
  have hS := hs.engine_size
  have hpos : 0 < e.size.toNat := hS ▸ hs.cursors.wellFormed.size_pos
  obtain ⟨f, hf, hft⟩ := hs.free_eq
  obtain ⟨t', ht', hamt⟩ := Engine.produce_eq hpos (hS ▸ hs.size_le) hs.packetLength_ne hf k
  rw [ht'] at h
  cases h
  -- the amount is zero or the whole packets of at most the free bytes
  have hle : t.amount.toNat ≤ f.toNat := by
    have : min k.toNat f.toNat ≤ f.toNat := Nat.min_le_right _ _
    split at hamt <;> omega
  have hdvd : r.packetLength ∣ t.amount.toNat := by
    rw [← hs.packetLength_eq, hamt]
    split
    · exact Nat.dvd_sub_mod _
    · exact Nat.dvd_zero _
  have hw := hs.written_offset
  have hroom : p + t.amount.toNat ≤ r.released + (r.size - r.packetLength) := by
    have := hs.cursors.released_le
    have := hs.received_le
    have := hs.produced_le
    omega
  have hsum : (e.offsetOf e.writtenAddress).toNat + t.amount.toNat < 2 ^ 32 := by
    have hsize := hs.size_le
    have hmod := Nat.mod_lt (b + p) hs.cursors.wellFormed.size_pos
    rw [hw]
    omega
  have hwritten : (e.advance t.amount).writtenAddress.toNat =
      r.startAddress.toNat + (b + (p + t.amount.toNat)) % r.size := by
    by_cases h0 : t.amount = 0
    · rw [Engine.advance, if_pos h0, hs.written_eq, h0, UInt32.toNat_zero, Nat.add_zero]
    · rw [Engine.advance_writtenAddress_toNat hpos h0 hsum, hw, hS, hs.start_eq,
        Nat.mod_add_mod, Nat.add_assoc]
  have herr : (e.advance t.amount).status.hasErrors = false := by
    rw [Engine.hasErrors_advance]
    exact hs.no_errors
  rw [Engine.advance_eq]
  exact { hs with
    no_errors := herr
    received_le := Nat.le_trans hs.received_le (Nat.le_add_right _ _)
    produced_le := hroom
    produced_dvd := Nat.dvd_add hs.produced_dvd hdvd
    written_eq := hwritten }

end Production

/-! ### One step of the reader -/

section Operations

variable {p b : Nat} {r : Reader} {e : Engine}

/-- The status poll leaves the stream alone: it reads the status and clears the flags it read. -/
theorem Stream.afterPoll (hs : Stream p b r e) : Stream p b r (afterPoll e) := by
  unfold Reader.afterPoll
  split
  · exact { hs with }
  · exact { hs with no_errors := Status.hasErrors_diff _ hs.no_errors }

/-- Reading the written address leaves the stream alone. -/
theorem Stream.readWritten (hs : Stream p b r e) : Stream p b r (Registers.written e).2 :=
  { hs with }

/-- A receive at the engine's written offset hands out no more than was produced. -/
theorem Stream.grant (hs : Stream p b r e) {least most : Nat} (hmost : r.packetLength ∣ most) :
    Stream p b (r.grant least most ((b + p) % r.size)).2 e := by
  have hw : r.packetLength ∣ (b + p) % r.size :=
    (Nat.dvd_mod_iff hs.cursors.wellFormed.packetLength_dvd_size).mpr
      (Nat.dvd_add hs.cursors.base_dvd hs.produced_dvd)
  have hc : Cursors b (r.grant least most ((b + p) % r.size)).2 := hs.cursors.grant hmost hw
  rcases grant_cases r least most ((b + p) % r.size) with h | ⟨-, h⟩
  · rw [h]
    exact hs
  rw [h] at hc ⊢
  -- the handout is at most the available bytes, which are `p - received`
  have hle : r.handout most ((b + p) % r.size) ≤ p - r.received := by
    rw [← hs.availableFrom_written, handout]
    omega
  exact { hs with
    cursors := hc
    received_le := by
      show r.received + r.handout most ((b + p) % r.size) ≤ p
      have := hs.received_le
      omega }

/-- A release of `n > 0` bytes moves the engine's read address with the done cursor. -/
theorem Stream.release (hs : Stream p b r e) {n : Nat} (hn : r.packetLength ∣ n)
    (hle : n ≤ r.outstandingBytes) :
    Stream p b { r with done := (r.done + n) % r.size, released := r.released + n }
      (Registers.setRead (r.addressOf ((r.done + n) % r.size)) e) := by
  have hc := hs.cursors
  have hlt : (r.done + n) % r.size < r.size := Nat.mod_lt _ hc.wellFormed.size_pos
  have hdvd : r.packetLength ∣ (r.done + n) % r.size :=
    (Nat.dvd_mod_iff hc.wellFormed.packetLength_dvd_size).mpr (Nat.dvd_add hc.dvd_done hn)
  rw [Engine.setRead_of_dvd (hs.dvd_address hlt hdvd)]
  exact { hs with
    cursors := hc.release hn hle
    produced_le := by
      show p ≤ r.released + n + (r.size - r.packetLength)
      have := hs.produced_le
      omega
    read_eq := by
      show (r.addressOf ((r.done + n) % r.size)).toNat =
        r.startAddress.toNat + (b + (r.released + n)) % r.size
      rw [hc.wellFormed.addressOf_toNat hlt, hc.done_eq, Nat.mod_add_mod, Nat.add_assoc] }

/-- A clear finds the engine at the end of the stream and starts a new one there: nothing
produced, received or released, with the read address at the written offset. -/
theorem Stream.clear (hs : Stream p b r e) :
    Stream 0 ((b + p) % r.size) (r.clearedAt ((b + p) % r.size))
      (Registers.setRead (r.addressOf ((b + p) % r.size)) (Registers.written e).2) := by
  have hwf := hs.cursors.wellFormed
  have hlt : (b + p) % r.size < r.size := Nat.mod_lt _ hwf.size_pos
  have hdvd : r.packetLength ∣ (b + p) % r.size :=
    (Nat.dvd_mod_iff hwf.packetLength_dvd_size).mpr
      (Nat.dvd_add hs.cursors.base_dvd hs.produced_dvd)
  have hback := hs.readWritten
  rw [Engine.setRead_of_dvd (hback.dvd_address hlt hdvd)]
  -- the new base is below the size, so adding no bytes to it is the base itself
  have hbase : ((b + p) % r.size + 0) % r.size = (b + p) % r.size := by
    rw [Nat.add_zero, Nat.mod_eq_of_lt hlt]
  exact { hback with
    cursors := cursors_clearedAt hwf hlt hdvd
    received_le := Nat.le_refl 0
    produced_le := Nat.zero_le _
    produced_dvd := Nat.dvd_zero _
    written_eq := by
      show e.writtenAddress.toNat = r.startAddress.toNat + ((b + p) % r.size + 0) % r.size
      rw [hbase]
      exact hs.written_eq
    read_eq := by
      show (r.addressOf ((b + p) % r.size)).toNat =
        r.startAddress.toNat + ((b + p) % r.size + 0) % r.size
      rw [hbase, hwf.addressOf_toNat hlt] }

/-- A receive keeps the stream, whether it hands out bytes or fails after the status poll or after
reading the written address. -/
theorem Stream.receive (hs : Stream p b r e) (least most : Nat) :
    Stream p b ((r.receiveData least most).run e).1.1.2 ((r.receiveData least most).run e).2 := by
  have hpoll := hs.afterPoll
  rw [receiveData]
  rcases hrun : (r.receive least most : RegisterM Engine _).run.run e with ⟨_ | v, e'⟩
  · rw [orFault_of_error hrun]
    have hstate := receive_state_eq_frame r least most e
    rw [hrun] at hstate
    rw [hstate]
    -- a failed receive stops after the poll or after reading the written address
    unfold receiveFrame
    split
    · exact hpoll.readWritten
    · exact hpoll
  · rw [orFault_of_ok hrun]
    obtain ⟨-, -, hmost, -, w, hw, rfl, rfl⟩ := receive_eq_ok hrun
    -- the written address read after the poll is the engine's, which decodes to `b + p`
    rw [show (Registers.written (Reader.afterPoll e)).1 = (Reader.afterPoll e).writtenAddress
      from rfl, hpoll.offsetOfAddress_written] at hw
    cases hw
    exact (hpoll.grant hmost).readWritten

/-- **Every reader operation but setup keeps the stream.** A failing operation gives back the
reader it was given and leaves the engine after its register reads; a clear cannot fail, since
the written address always decodes. -/
theorem Stream.perform (hs : Stream p b r e) {o : ReaderOp} (ho : o ≠ .setup) :
    Stream (r.producedAfter p o e) (r.observedBase b o e) ((r.perform o).run e).1.1
      ((r.perform o).run e).2 := by
  cases o with
  | setup => exact absurd rfl ho
  | disable => exact { hs with cursors := hs.cursors.congr rfl rfl rfl rfl rfl rfl rfl }
  | checkStatus =>
    simp only [perform_checkStatus, checkStatus, orFault_state, poll_run]
    exact hs.afterPoll
  | available =>
    simp only [perform_available, numAvailable, orFault_state, available_run]
    exact hs.readWritten
  | receiveAll => exact hs.receive 0 r.size
  | receive least most => exact hs.receive least most
  | release n =>
    simp only [perform_release, doneWithData, producedAfter, observedBase]
    rcases hrun : (r.release n : RegisterM Engine Reader).run.run e with ⟨_ | r', e'⟩
    · rw [orFault_of_error hrun]
      -- a failed release touches no register
      have hstate := release_state_of_error (by rw [hrun])
      rw [hrun] at hstate
      rw [hstate]
      exact hs
    · rw [orFault_of_ok hrun]
      obtain ⟨hn, hle, ⟨-, rfl, rfl⟩ | ⟨-, rfl, rfl⟩⟩ := release_eq_ok hrun
      · exact hs
      · exact hs.release hn hle
  | clear =>
    have hw : r.offsetOfAddress (Registers.written e).1 = .ok ((b + p) % r.size) :=
      hs.offsetOfAddress_written
    have hrun : (r.clear : RegisterM Engine Reader).run.run e =
        (.ok (r.clearedAt ((b + p) % r.size)),
          Registers.setRead (r.addressOf ((b + p) % r.size)) (Registers.written e).2) := by
      rw [clear_run, hw]
    simp only [perform_clear, clearAllData, producedAfter, observedBase, writtenOffset_run, hw]
    rw [orFault_of_ok hrun]
    exact hs.clear

end Operations

/-! ### Every run -/

/-- The setup programs the engine with the buffer and a read address at its start, all on packet
boundaries, so it raises no flag and starts the stream empty. -/
theorem stream_setup {buf : Buffer} {cfg : Config} {r : Reader} {pl : UInt32} {e : Engine}
    (hr : Reader.new? buf cfg = .ok r) (he : Engine.new? pl = .ok e)
    (hpl : pl.toNat = cfg.packetLength) (hsize : buf.size ≤ 2 ^ 31) :
    Stream 0 0 (r.setup.run e).1 (r.setup.run e).2 := by
  obtain ⟨-, hcfg, hbuf, -, -, ho, hd, hrc, hrl, -⟩ := new?_eq_ok_iff.mp hr
  have hc := cursors_new hr
  have hwf := hc.wellFormed
  have he' : e = { packetLength := pl } := by
    unfold Engine.new? at he
    split at he
    · cases he
    · cases he
      rfl
  subst he'
  have hpl' : pl.toNat = r.packetLength := by rw [hpl, packetLength, hcfg]
  have hstart : pl.toNat ∣ r.startAddress.toNat := hpl' ▸ hwf.accepts.address_dvd
  have hend : pl.toNat ∣ r.endAddress.toNat := by
    rw [hwf.endAddress_toNat, hpl']
    exact Nat.dvd_add hwf.accepts.address_dvd hwf.packetLength_dvd_size
  have hread : pl.toNat ∣ (r.addressOf r.done).toNat := by
    rw [hd, hwf.addressOf_toNat hwf.size_pos, Nat.add_zero]
    exact hstart
  rw [setup_run]
  simp only
  rw [Engine.setStart_of_dvd hstart, Engine.setEnd_of_dvd hend, Engine.setRead_of_dvd hread]
  refine ⟨hc.congr rfl rfl rfl rfl rfl rfl rfl, ?_, hpl', rfl, rfl, rfl, ?_, ?_, Nat.dvd_zero _,
    ?_, ?_⟩
  · show r.buffer.size ≤ 2 ^ 31
    rw [hbuf]
    exact hsize
  · show r.received ≤ 0
    rw [hrc]
  · show 0 ≤ r.released + _
    exact Nat.zero_le _
  · show r.startAddress.toNat = r.startAddress.toNat + (0 + 0) % r.size
    simp
  · show (r.addressOf r.done).toNat = r.startAddress.toNat + (0 + r.released) % r.size
    rw [hd, hrl, hwf.addressOf_toNat hwf.size_pos, Nat.zero_add, Nat.zero_mod]

theorem Streaming.stream {p b : Nat} {r : Reader} {e : Engine} (h : Streaming p b r e) :
    Stream p b r e := by
  induction h with
  | setup hr he hpl hsize => exact stream_setup hr he hpl hsize
  | produce _ hprod ih => exact ih.produce hprod
  | perform o ho _ ih => exact ih.perform ho

/-- **Reader and engine pass a lossless FIFO stream.** After every step of a run, with `p` the
bytes produced since setup or the last successful clear and `b` the written offset that clear
saw: the released, received and produced counts are ordered, and the engine never holds more
than the buffer less one packet beyond what was released; the engine's written address is the
start plus `b + p` and its read address the start plus `b + released`, the done cursor, modulo
the size; the reader finds exactly the `p - received` bytes not yet handed out available; and
the next production does not abort. -/
theorem Streaming.lossless {p b : Nat} {r : Reader} {e : Engine} (h : Streaming p b r e) :
    r.released ≤ r.received ∧ r.received ≤ p ∧ p ≤ r.released + (r.size - r.packetLength) ∧
      e.writtenAddress.toNat = r.startAddress.toNat + (b + p) % r.size ∧
      e.readAddress.toNat = r.startAddress.toNat + (b + r.released) % r.size ∧
      r.done = (b + r.released) % r.size ∧
      (r.numAvailable.run e).1 = (p - r.received, []) ∧
      ∀ k, ∃ t e', e.produce k = .ok (t, e') := by
  have hs := h.stream
  have havail : (r.available : RegisterM Engine Nat).run.run e =
      (.ok (p - r.received), (Registers.written e).2) := by
    rw [available_run, show (Registers.written e).1 = e.writtenAddress from rfl,
      hs.offsetOfAddress_written]
    show (Except.ok (r.availableFrom ((b + p) % r.size)), _) = _
    rw [hs.availableFrom_written]
  refine ⟨hs.cursors.released_le, hs.received_le, hs.produced_le, hs.written_eq, hs.read_eq,
    hs.cursors.done_eq, ?_, hs.produce_ok⟩
  rw [numAvailable, orFault_of_ok havail]

/-- A switched-off engine for packets of 64 bytes, as `Engine.new? 64` builds it. -/
def sampleEngine : Engine := { packetLength := 64 }

/-- Setup, a production of 256 bytes, a receive of 128 of them and a release of the first 64. -/
theorem lossless_sampleReader :
    let s := sampleReader.setup.run sampleEngine
    let e₁ : Engine := { s.2 with writtenAddress := 4352, status := { writeDone := true } }
    let u := (s.1.perform (.receive 64 128)).run e₁
    let r := ((u.1.1.perform (.release 64)).run u.2).1.1
    let e := ((u.1.1.perform (.release 64)).run u.2).2
    s.2.produce 256 = .ok (⟨256, [⟨0, 256⟩]⟩, e₁) ∧ Streaming 256 0 r e ∧
      r.received = 128 ∧ r.released = 64 ∧
      r.released ≤ r.received ∧ r.received ≤ 256 ∧ 256 ≤ r.released + (r.size - r.packetLength) ∧
      e.writtenAddress.toNat = r.startAddress.toNat + (0 + 256) % r.size ∧
      e.readAddress.toNat = r.startAddress.toNat + (0 + r.released) % r.size ∧
      r.done = (0 + r.released) % r.size ∧
      (r.numAvailable.run e).1 = (256 - r.received, []) ∧
      ∀ k, ∃ t e', e.produce k = .ok (t, e') := by
  intro s e₁ u r e
  have hprod : s.2.produce 256 = .ok (⟨256, [⟨0, 256⟩]⟩, e₁) := by decide
  have h₀ : Streaming 0 0 s.1 s.2 :=
    .setup new?_sampleReader (rfl : Engine.new? 64 = .ok sampleEngine) rfl (by norm_num)
  have h : Streaming 256 0 r e :=
    .perform (.release 64) (by decide) (.perform (.receive 64 128) (by decide) (h₀.produce hprod))
  exact ⟨hprod, h, by decide, by decide, Streaming.lossless h⟩

end Reader

end PacketRing
