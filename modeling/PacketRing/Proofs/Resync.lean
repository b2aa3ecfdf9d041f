import Mathlib
import PacketRing.Proofs.Receive
import PacketRing.Proofs.EngineSpecs

/-!
# A clear puts reader and engine back in step

A clear is the way back from any state: it reads the engine's written address, moves both of
the reader's cursors to the offset it decodes, forgets the totals and programs the read address
at the same offset. Nothing in it depends on the cursors it drops, so it works as well from a
state the reader's own invariant rules out, such as one whose written address was forced from
outside or one with the whole buffer handed out.

Reader and engine measure the written address the same way: the reader decodes it as its
distance from the start modulo the size, and the engine takes the wrapping difference from the
start modulo the size, so an address at the end of the buffer is offset `0` for both
(`Attached.offsetOf_toNat`). After the clear the engine's read offset is its written offset, so
it holds no unreleased byte and may write the whole buffer but one packet.

* `Reader.Attached` — an engine programmed with the reader's buffer bounds and packet length.
* `Reader.Resynced` — reader and engine right after a clear that found the written offset `w`.

The main statement is `Reader.clear_resynchronises`.
-/

namespace PacketRing

namespace Reader

/-- An engine whose start and end registers hold the reader's buffer bounds, as the reader's setup
programs them, and that writes packets of the reader's length. -/
structure Attached (r : Reader) (e : Engine) : Prop where
  start_eq : e.startAddress = r.startAddress
  end_eq : e.endAddress = r.endAddress
  packetLength_eq : e.packetLength.toNat = r.packetLength

section Attached

variable {r : Reader} {e : Engine} (hr : r.WellFormed) (he : r.Attached e)
include hr he

theorem Attached.size_toNat : e.size.toNat = r.size := by
  rw [Engine.size_toNat, he.end_eq, he.start_eq, hr.endAddress_toNat]
  omega

/-- The engine measures every address as the reader decodes it: its distance from the start,
modulo the size. -/
theorem Attached.offsetOf_toNat (a : UInt32) :
    (e.offsetOf a).toNat = (a - r.startAddress).toNat % r.size := by
  rw [Engine.offsetOf, UInt32.toNat_mod, he.start_eq, he.size_toNat hr]

/-- The engine reads the address of an offset inside the buffer as that offset. -/
theorem Attached.offsetOf_addressOf {w : Nat} (hw : w < r.size) :
    (e.offsetOf (r.addressOf w)).toNat = w := by
  have hle : r.startAddress ≤ r.addressOf w := by
    rw [UInt32.le_iff_toNat_le, hr.addressOf_toNat hw]
    omega
  rw [he.offsetOf_toNat hr, UInt32.toNat_sub_of_le _ _ hle, hr.addressOf_toNat hw,
    Nat.add_sub_cancel_left, Nat.mod_eq_of_lt hw]

/-- An engine whose read offset is its written offset holds no unreleased byte, and may write all
of the buffer but one packet. -/
theorem Attached.at_rest (hS2 : r.size ≤ 2 ^ 31)
    (hrest : e.offsetOf e.readAddress = e.offsetOf e.writtenAddress) :
    e.unreleased = .ok 0 ∧ ∃ f, e.free = .ok f ∧ f.toNat = r.size - r.packetLength := by
  have hS : 0 < e.size.toNat := he.size_toNat hr ▸ hr.size_pos
  have hS2' : e.size.toNat ≤ 2 ^ 31 := he.size_toNat hr ▸ hS2
  obtain ⟨u, hu, hut⟩ := Engine.unreleased_eq hS hS2'
  have hdist : ((e.offsetOf e.writtenAddress).toNat + e.size.toNat -
      (e.offsetOf e.readAddress).toNat) % e.size.toNat = 0 := by
    rw [hrest, Nat.add_sub_cancel_left, Nat.mod_self]
  have hu0 : u = 0 := UInt32.toNat_inj.mp (by rw [hut, hdist, UInt32.toNat_zero])
  obtain ⟨f, hf, hft⟩ := Engine.free_eq hS hS2'
  refine ⟨hu0 ▸ hu, f, hf, ?_⟩
  rw [hft, hdist, he.size_toNat hr, he.packetLength_eq, Nat.sub_zero]

theorem Attached.packetLength_ne_zero : e.packetLength ≠ 0 := by
  intro h0
  have := hr.packetLength_pos
  rw [← he.packetLength_eq, h0, UInt32.toNat_zero] at this
  exact Nat.lt_irrefl 0 this

/-- An engine whose free space is the size less one packet writes no more than that in any
production, and all of it when switched on and asked for as much. -/
theorem Attached.produce_of_free (hS2 : r.size ≤ 2 ^ 31) {f : UInt32} (hf : e.free = .ok f)
    (hft : f.toNat = r.size - r.packetLength) (k : UInt32) :
    ∃ t e', e.produce k = .ok (t, e') ∧ t.amount.toNat ≤ r.size - r.packetLength ∧
      (e.enabled = true → r.size - r.packetLength ≤ k.toNat →
        t.amount.toNat = r.size - r.packetLength) := by
  have hS : 0 < e.size.toNat := he.size_toNat hr ▸ hr.size_pos
  obtain ⟨t, ht, hamt⟩ :=
    Engine.produce_eq hS (he.size_toNat hr ▸ hS2) (he.packetLength_ne_zero hr) hf k
  refine ⟨t, _, ht, ?_, fun hon hk => ?_⟩
  · have : min k.toNat f.toNat ≤ f.toNat := Nat.min_le_right _ _
    split at hamt <;> omega
  · -- a whole buffer less one packet is itself a whole number of packets
    have hfull : (r.size - r.packetLength) % r.packetLength = 0 :=
      Nat.mod_eq_zero_of_dvd (Nat.dvd_sub hr.packetLength_dvd_size (Nat.dvd_refl _))
    rw [if_pos hon, hft, Nat.min_eq_right hk, he.packetLength_eq, hfull, Nat.sub_zero] at hamt
    exact hamt

/-- A clear that decodes the written address as `w` moves the reader there, and the engine only
counts the read of its written address and takes the read address at offset `w`: that address is
on a packet boundary, so programming it raises no flag. -/
theorem Attached.clear_run {w : Nat} (hw : r.offsetOfAddress e.writtenAddress = .ok w) :
    (r.clear : RegisterM Engine Reader).run.run e =
      (.ok (r.clearedAt w),
        { e with readAddress := r.addressOf w, writtenReads := e.writtenReads + 1 }) := by
  obtain ⟨hlt, hdvd⟩ := offsetOfAddress_eq_ok hr hw
  have hal : e.packetLength.toNat ∣ (r.addressOf w).toNat := by
    rw [he.packetLength_eq, hr.addressOf_toNat hlt]
    exact Nat.dvd_add hr.accepts.address_dvd hdvd
  have hset : Registers.setRead (r.addressOf w) (Registers.written e).2 =
      { e with readAddress := r.addressOf w, writtenReads := e.writtenReads + 1 } :=
    Engine.setRead_of_dvd hal
  rw [Reader.clear_run, show (Registers.written e).1 = e.writtenAddress from rfl, hw]
  exact congrArg (Prod.mk (Except.ok (r.clearedAt w))) hset

end Attached

/-- A decoded written address gives its distance from the start, modulo the size. -/
theorem eq_of_offsetOfAddress {r : Reader} {a : UInt32} {w : Nat}
    (h : r.offsetOfAddress a = .ok w) : w = (a - r.startAddress).toNat % r.size := by
  unfold offsetOfAddress at h
  split at h
  · cases h
  split at h
  · cases h
  cases h
  rfl

/-- Reader `r'` and engine `e'` right after a clear of reader `r` and engine `e` that found the
written offset `w`: both cursors at `w`, nothing received, released or handed out, the epoch one
further; the engine as it was but for one more read of its written address and a read address at
the start plus `w`, which the engine reads as `w`, the offset it sees its written address at.
Nothing is then available to the reader; the engine holds no unreleased byte, its free space is
the size less one packet, and a production writes no more than that, and all of it when switched
on and asked for as much. -/
structure Resynced (r : Reader) (e : Engine) (w : Nat) (r' : Reader) (e' : Engine) : Prop where
  reader_eq : r' =
    { r with outstanding := w, done := w, received := 0, released := 0, epoch := r.epoch + 1 }
  outstandingBytes_eq : r'.outstandingBytes = 0
  engine_eq : e' = { e with readAddress := e'.readAddress, writtenReads := e.writtenReads + 1 }
  read_eq : e'.readAddress.toNat = r.startAddress.toNat + w
  written_offset : (e.offsetOf e.writtenAddress).toNat = w
  available : (r'.numAvailable.run e').1 = (0, [])
  unreleased : e'.unreleased = .ok 0
  free : ∃ f, e'.free = .ok f ∧ f.toNat = r.size - r.packetLength
  produce : ∀ k, ∃ t e'', e'.produce k = .ok (t, e'') ∧
    t.amount.toNat ≤ r.size - r.packetLength ∧
    (e.enabled = true → r.size - r.packetLength ≤ k.toNat →
      t.amount.toNat = r.size - r.packetLength)

/-- **A clear puts reader and engine back in step from any state.** For a reader over a buffer of
at most `2 ^ 31` bytes, with any cursors and totals, and an engine programmed with its bounds and
packet length whose written address the reader accepts, at offset `w`: the clear reports no fault
and leaves reader and engine `Resynced` at `w`. -/
theorem clear_resynchronises {r : Reader} {e : Engine} {w : Nat} (hr : r.WellFormed)
    (hS2 : r.size ≤ 2 ^ 31) (he : r.Attached e)
    (hw : r.offsetOfAddress e.writtenAddress = .ok w) :
    ∃ r' e', r.clearAllData.run e = ((r', []), e') ∧ r.Resynced e w r' e' := by
  obtain ⟨hlt, -⟩ := offsetOfAddress_eq_ok hr hw
  refine ⟨r.clearedAt w, _, orFault_of_ok (he.clear_run hr hw), ?_⟩
  set e' : Engine := { e with readAddress := r.addressOf w, writtenReads := e.writtenReads + 1 }
  have he' : r.Attached e' := ⟨he.start_eq, he.end_eq, he.packetLength_eq⟩
  -- the engine sees its written address at `w`, as the reader decoded it, and now its read
  -- address there too
  have hwritten : (e.offsetOf e.writtenAddress).toNat = w := by
    rw [he.offsetOf_toNat hr, eq_of_offsetOfAddress hw]
  have hrest : e'.offsetOf e'.readAddress = e'.offsetOf e'.writtenAddress := by
    apply UInt32.toNat_inj.mp
    rw [he'.offsetOf_addressOf hr hlt]
    exact hwritten.symm
  obtain ⟨hu, f, hf, hft⟩ := he'.at_rest hr hS2 hrest
  have havail : ((r.clearedAt w).numAvailable.run e').1 = (0, []) := by
    have hdec : (r.clearedAt w).offsetOfAddress (Registers.written e').1 = .ok w := hw
    rw [numAvailable_of_decode hdec]
    show ((w + r.size - w) % r.size, []) = _
    rw [Nat.add_sub_cancel_left, Nat.mod_self]
  exact ⟨rfl, rfl, rfl, hr.addressOf_toNat hlt, hwritten, havail, hu, ⟨f, hf, hft⟩,
    he'.produce_of_free hr hS2 hf hft⟩

/-- An engine programmed for `sampleReader` and switched on, whose written address was forced to
the end of the buffer while the read address lies two packets in. -/
def forcedEnd : Engine :=
  { packetLength := 64, enabled := true, startAddress := 4096, endAddress := 8192,
    writtenAddress := 8192, readAddress := 4224 }

theorem clear_resynchronises_forcedEnd :
    sampleReader.WellFormed ∧ sampleReader.size ≤ 2 ^ 31 ∧ sampleReader.Attached forcedEnd ∧
      sampleReader.offsetOfAddress forcedEnd.writtenAddress = .ok 0 ∧
      ∃ r' e', sampleReader.clearAllData.run forcedEnd = ((r', []), e') ∧
        sampleReader.Resynced forcedEnd 0 r' e' :=
  have hr : sampleReader.WellFormed := wellFormed_of_new? new?_sampleReader
  have he : sampleReader.Attached forcedEnd := ⟨rfl, rfl, rfl⟩
  have hw : sampleReader.offsetOfAddress forcedEnd.writtenAddress = .ok 0 := by decide
  ⟨hr, by decide, he, hw, clear_resynchronises hr (by decide) he hw⟩

end Reader

end PacketRing
