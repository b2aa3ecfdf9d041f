import PacketRing.Proofs.Cursors

/-!
# A receive hands out the available prefix

Once its checks pass, a receive decodes the written address into an offset `w` of the ring and
hands out bytes from the outstanding cursor towards it. Three bounds cut the count: the bytes
available (`availableFrom w`, the distance forward from the outstanding cursor to `w`), the
requested maximum, and the room before the end of the buffer, since a response never wraps. When
fewer bytes than the requested minimum are available, or when the count comes out as zero, the
response is `Response.empty`, the one response with no bytes, whose offset is `0` whatever the
cursor.

* `offsetOfAddress_of_mem` — an address inside the buffer, its end included, and on a packet
  boundary decodes to its distance from the start modulo the size, so the end means the start.
* `numAvailable_of_decode`, `receiveData_of_decode` — the availability query and a receive whose
  checks pass, as plain functions of the decoded offset.
* `handout_le_most`, `handout_le_available`, `add_handout_le_size` — the count is within each
  bound; `WellFormed.dvd_handout` says it is a whole number of packets.

The main statement is `receive_takes_available_prefix`; `receive_nothing_at_offset_zero` shows
that a receive that hands out nothing reports the offset `0`, not the outstanding cursor.
-/

namespace PacketRing

namespace Reader

variable {β : Type} [Registers β]

/-! ### The written offset and the bytes available -/

/-- An address inside the buffer, its end included, and on a packet boundary decodes to its
distance from the start, modulo the size. -/
theorem offsetOfAddress_of_mem {r : Reader} {a : UInt32} (hlo : r.startAddress ≤ a)
    (hhi : a ≤ r.endAddress) (hal : r.packetLength ∣ (a - r.startAddress).toNat) :
    r.offsetOfAddress a = .ok ((a - r.startAddress).toNat % r.size) := by
  have hin : (a < r.startAddress || r.endAddress < a) = false := by
    simp [UInt32.not_lt.mpr hlo, UInt32.not_lt.mpr hhi]
  have hmod : ¬ (a - r.startAddress).toNat % r.packetLength ≠ 0 :=
    fun h => h (Nat.mod_eq_zero_of_dvd hal)
  unfold offsetOfAddress
  rw [hin, if_neg Bool.false_ne_true, if_neg hmod]

theorem availableFrom_lt {r : Reader} (hr : r.WellFormed) (w : Nat) : r.availableFrom w < r.size :=
  Nat.mod_lt _ hr.size_pos

/-- The availability query reads the written address once and reports the bytes available from
the offset it decodes; it reports no fault. -/
theorem numAvailable_of_decode {r : Reader} {t : β} {w : Nat}
    (hw : r.offsetOfAddress (Registers.written t).1 = .ok w) :
    r.numAvailable.run t = ((r.availableFrom w, []), (Registers.written t).2) := by
  have hrun : (r.available : RegisterM β Nat).run.run t =
      (.ok (r.availableFrom w), (Registers.written t).2) := by
    rw [available_run, hw]
    rfl
  exact orFault_of_ok hrun

/-- A receive whose status poll finds no error, whose lengths are whole packets in order, and whose
written address decodes to `w` reports no fault and gives the `grant` at `w`. -/
theorem receiveData_of_decode {r : Reader} {least most w : Nat} {s : β}
    (hst : (Registers.status s).1.hasErrors = false) (hleast : r.packetLength ∣ least)
    (hmost : r.packetLength ∣ most) (hle : least ≤ most)
    (hw : r.offsetOfAddress (Registers.written (afterPoll s)).1 = .ok w) :
    (r.receiveData least most).run s =
      ((r.grant least most w, []), (Registers.written (afterPoll s)).2) := by
  have hrun : (r.receive least most : RegisterM β _).run.run s =
      (.ok (r.grant least most w), (Registers.written (afterPoll s)).2) := by
    have h1 : ¬ least % r.packetLength ≠ 0 := fun h => h (Nat.mod_eq_zero_of_dvd hleast)
    have h2 : ¬ most % r.packetLength ≠ 0 := fun h => h (Nat.mod_eq_zero_of_dvd hmost)
    rw [receive_run, hst, if_neg Bool.false_ne_true, if_neg h1, if_neg h2,
      if_neg (Nat.not_lt.mpr hle), hw]
    rfl
  exact orFault_of_ok hrun

/-! ### The count a receive hands out -/

section Handout

variable {r : Reader} {least most w : Nat}

theorem handout_le_most : r.handout most w ≤ most :=
  Nat.le_trans (Nat.min_le_left _ _) (Nat.min_le_right _ _)

theorem handout_le_available : r.handout most w ≤ r.availableFrom w :=
  Nat.le_trans (Nat.min_le_left _ _) (Nat.min_le_left _ _)

/-- A response stops at the end of the buffer. -/
theorem add_handout_le_size (hout : r.outstanding ≤ r.size) :
    r.outstanding + r.handout most w ≤ r.size := by
  have : r.handout most w ≤ r.size - r.outstanding := Nat.min_le_right _ _
  omega

theorem grant_of_lt (h : r.availableFrom w < least) :
    r.grant least most w = (Response.empty, r) := by
  unfold grant
  rw [if_pos h]

/-- With at least `least` bytes available, a receive hands out the `handout`, which is the empty
response when the count is zero. -/
theorem grant_of_le (h : least ≤ r.availableFrom w) :
    r.grant least most w =
      if r.handout most w = 0 then (Response.empty, r)
      else ({ numBytes := r.handout most w, region := some r.buffer.region,
                offset := r.outstanding, position := r.received, epoch := r.epoch },
              { r with outstanding := (r.outstanding + r.handout most w) % r.size,
                       received := r.received + r.handout most w }) := by
  unfold grant
  rw [if_neg (Nat.not_lt.mpr h)]

end Handout

/-! ### Receiving the available prefix -/

/-- **A receive hands out the contiguous available prefix.** For a reader whose outstanding cursor
is a packet-aligned offset inside the buffer, lengths `least ≤ most` that are whole packets, a
status poll without error flags and a written address `a` inside the buffer (its end included) and
on a packet boundary: let `w` be `a`'s distance from the start modulo the size and `avail` the
distance forward from the outstanding cursor to `w`. The availability query reports exactly `avail`
for the same address and keeps the reader. The receive reports no fault. Below `least` bytes it
gives the empty response and keeps the reader; otherwise the count `n`, the least of `avail`,
`most` and the room before the end, is a whole number of packets within each bound, and the
receive gives the empty response and keeps the reader when `n = 0`, and otherwise hands out the
`n` bytes at the outstanding cursor, at the received total and in the current epoch, and moves
the cursor and the received total past them. -/
theorem receive_takes_available_prefix {r : Reader} (hr : r.WellFormed)
    (hout : r.outstanding < r.size) (hdvd : r.packetLength ∣ r.outstanding) {least most : Nat}
    (hleast : r.packetLength ∣ least) (hmost : r.packetLength ∣ most) (hle : least ≤ most)
    {s : β} (hst : (Registers.status s).1.hasErrors = false)
    (hlo : r.startAddress ≤ (Registers.written (afterPoll s)).1)
    (hhi : (Registers.written (afterPoll s)).1 ≤ r.endAddress)
    (hal : r.packetLength ∣ ((Registers.written (afterPoll s)).1 - r.startAddress).toNat) :
    let a := (Registers.written (afterPoll s)).1
    let w := (a - r.startAddress).toNat % r.size
    let avail := (w + r.size - r.outstanding) % r.size
    let n := min (min avail most) (r.size - r.outstanding)
    let res := ((r.receiveData least most).run s).1
    (∀ t : β, (Registers.written t).1 = a →
      (r.numAvailable.run t).1 = (avail, []) ∧ ((r.perform .available).run t).1.1 = r) ∧
    res.2 = [] ∧
    (avail < least → res.1 = (Response.empty, r)) ∧
    (least ≤ avail →
      res.1.1.numBytes = n ∧ r.packetLength ∣ n ∧ n ≤ most ∧ n ≤ avail ∧
      r.outstanding + n ≤ r.size ∧
      (n = 0 → res.1 = (Response.empty, r)) ∧
      (0 < n → res.1 =
        ({ numBytes := n, region := some r.buffer.region, offset := r.outstanding,
            position := r.received, epoch := r.epoch },
          { r with outstanding := (r.outstanding + n) % r.size, received := r.received + n }))) := by
  intro a w avail n res
  have hw : r.offsetOfAddress a = .ok w := offsetOfAddress_of_mem hlo hhi hal
  have hwdvd : r.packetLength ∣ w := (offsetOfAddress_eq_ok hr hw).2
  have hres : res = (r.grant least most w, []) := by
    show ((r.receiveData least most).run s).1 = _
    rw [receiveData_of_decode hst hleast hmost hle hw]
  refine ⟨fun t ht => ?_, by rw [hres], fun hlt => by rw [hres, grant_of_lt hlt], fun hge => ?_⟩
  · -- the query decodes the same address and reports the same distance
    rw [← ht] at hw
    exact ⟨by rw [numAvailable_of_decode hw]; rfl, rfl⟩
  have hgrant : r.grant least most w = _ := grant_of_le hge
  refine ⟨?_, hr.dvd_handout hdvd hmost hwdvd, handout_le_most, handout_le_available,
    add_handout_le_size (Nat.le_of_lt hout), fun h0 => ?_, fun hpos => ?_⟩
  · rw [hres, hgrant]
    split
    · exact (‹handout r most w = 0›).symm
    · rfl
  · have h0' : r.handout most w = 0 := h0
    rw [hres, hgrant, if_pos h0']
  · have hpos' : r.handout most w ≠ 0 := Nat.pos_iff_ne_zero.mp hpos
    rw [hres, hgrant, if_neg hpos']
    rfl

theorem receive_takes_available_prefix_sampleBlock256 :
    sampleReader.WellFormed ∧ sampleReader.outstanding < sampleReader.size ∧
      sampleReader.packetLength ∣ sampleReader.outstanding ∧
      sampleReader.packetLength ∣ 64 ∧ sampleReader.packetLength ∣ 128 ∧ 64 ≤ 128 ∧
      (Registers.status sampleBlock256).1.hasErrors = false ∧
      sampleReader.startAddress ≤ (Registers.written (afterPoll sampleBlock256)).1 ∧
      (Registers.written (afterPoll sampleBlock256)).1 ≤ sampleReader.endAddress ∧
      sampleReader.packetLength ∣
        ((Registers.written (afterPoll sampleBlock256)).1 - sampleReader.startAddress).toNat ∧
    let a := (Registers.written (afterPoll sampleBlock256)).1
    let w := (a - sampleReader.startAddress).toNat % sampleReader.size
    let avail := (w + sampleReader.size - sampleReader.outstanding) % sampleReader.size
    let n := min (min avail 128) (sampleReader.size - sampleReader.outstanding)
    let res := ((sampleReader.receiveData 64 128).run sampleBlock256).1
    (∀ t : Block, (Registers.written t).1 = a →
      (sampleReader.numAvailable.run t).1 = (avail, []) ∧
        ((sampleReader.perform .available).run t).1.1 = sampleReader) ∧
    res.2 = [] ∧
    (avail < 64 → res.1 = (Response.empty, sampleReader)) ∧
    (64 ≤ avail →
      res.1.1.numBytes = n ∧ sampleReader.packetLength ∣ n ∧ n ≤ 128 ∧ n ≤ avail ∧
      sampleReader.outstanding + n ≤ sampleReader.size ∧
      (n = 0 → res.1 = (Response.empty, sampleReader)) ∧
      (0 < n → res.1 =
        ({ numBytes := n, region := some sampleReader.buffer.region,
            offset := sampleReader.outstanding, position := sampleReader.received,
            epoch := sampleReader.epoch },
          { sampleReader with outstanding := (sampleReader.outstanding + n) % sampleReader.size,
                              received := sampleReader.received + n }))) := by
  have hr : sampleReader.WellFormed := wellFormed_of_new? new?_sampleReader
  have hout : sampleReader.outstanding < sampleReader.size := by decide
  have hdvd : sampleReader.packetLength ∣ sampleReader.outstanding := by decide
  have h64 : sampleReader.packetLength ∣ 64 := by decide
  have h128 : sampleReader.packetLength ∣ 128 := by decide
  have hst : (Registers.status sampleBlock256).1.hasErrors = false := by decide
  have hlo : sampleReader.startAddress ≤ (Registers.written (afterPoll sampleBlock256)).1 := by
    decide
  have hhi : (Registers.written (afterPoll sampleBlock256)).1 ≤ sampleReader.endAddress := by
    decide
  have hal : sampleReader.packetLength ∣
      ((Registers.written (afterPoll sampleBlock256)).1 - sampleReader.startAddress).toNat := by
    decide
  exact ⟨hr, hout, hdvd, h64, h128, by decide, hst, hlo, hhi, hal,
    receive_takes_available_prefix hr hout hdvd h64 h128 (by decide) hst hlo hhi hal⟩

/-- **A receive that hands out nothing reports offset `0`.** Over registers whose written address
is the reader's own outstanding cursor, 128 bytes into the buffer, nothing is available, and a
receive of at least nothing gives the empty response, whose offset is `0` and not the outstanding
cursor, whose position is `0` and not the received total. -/
theorem receive_nothing_at_offset_zero :
    let r : Reader := { sampleReader with outstanding := 128, received := 128 }
    let s : Block := Block.zero.put .written 4224
    let res := ((r.receiveData 0 r.size).run s).1
    (Registers.status s).1.hasErrors = false ∧
      r.offsetOfAddress (Registers.written (afterPoll s)).1 = .ok 128 ∧
      r.availableFrom 128 = 0 ∧ res.2 = [] ∧ res.1.1.numBytes = 0 ∧
      res.1.1.offset = 0 ∧ res.1.1.offset ≠ r.outstanding ∧ res.1.1.position ≠ r.received := by
  intro r s res
  have hw : r.offsetOfAddress (Registers.written (afterPoll s)).1 = .ok 128 := by
    rw [offsetOfAddress_of_mem (by decide) (by decide) (by decide)]
    exact congrArg Except.ok (by decide)
  have hrun : (r.receiveData 0 r.size).run s = _ :=
    receiveData_of_decode (by decide) (Nat.dvd_zero _) (by decide) (Nat.zero_le _) hw
  have hgrant : r.grant 0 r.size 128 = (Response.empty, r) := by decide
  have hres : res = ((Response.empty, r), []) := by
    show ((r.receiveData 0 r.size).run s).1 = _
    rw [hrun, hgrant]
  rw [hres]
  exact ⟨by decide, hw, by decide, rfl, rfl, rfl, by decide, by decide⟩

end Reader

end PacketRing
