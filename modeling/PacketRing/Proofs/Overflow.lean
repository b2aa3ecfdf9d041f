import Mathlib
import PacketRing.Proofs.Cursors

/-!
# The reader's arithmetic stays inside its machine words

The reader computes its offsets and lengths in 64-bit words, its totals in 64-bit words and its
bus addresses in 32-bit words; a sum that leaves its word, a difference that would go below zero
and a remainder by zero each stop the program, as does the assertion that every count a receive
hands out is a whole number of packets. None of them happens. The construction-time checks give
a positive packet length and size and a buffer that ends inside the 32-bit address space; the
cursor invariant of `Reader.Reachable` keeps both cursors below the size and the released total
below the received one; and the received total stays below `2 ^ 64 - size` as long as fewer bytes
than that are handed out between two clears.

* `Reader.AddressFits r off` — `start + off` computed in 32 bits is exact: the offset loses no bit
  and the sum does not wrap.
* `Reader.NoOverflow r` — one field per place where an operation of `r` could leave its word,
  for every request and every value the registers may read.

The main statement is `Reachable.no_overflow`.
-/

namespace PacketRing

namespace Reader

variable {β : Type} [Registers β]

/-- The bus address of buffer offset `off` is computed exactly in 32 bits: `off` has no bit above
the 32 kept by the cast, and the start plus `off` is still a 32-bit address. -/
def AddressFits (r : Reader) (off : Nat) : Prop :=
  off < 2 ^ 32 ∧ r.startAddress.toNat + off < 2 ^ 32

/-- The side conditions of every arithmetic step of the reader's operations, each at the values
it is applied to. A field holds for every request and for every status and written address the
registers may read. -/
structure NoOverflow (r : Reader) : Prop where
  /-- `n % packet_length` in the length checks and the written-address decode. -/
  packetLength_pos : 0 < r.packetLength
  /-- `% size` in the decode, the availability and every cursor update. -/
  size_pos : 0 < r.size
  /-- `address - start_address` in the decode, reached only once the range check has passed. -/
  decode_sub : ∀ a : UInt32, (a < r.startAddress || r.endAddress < a) = false →
    r.startAddress.toNat ≤ a.toNat
  /-- `written + size - outstanding_offset`, for every offset the decode gives. -/
  available_sub : ∀ a w, r.offsetOfAddress a = .ok w →
    w + r.size < 2 ^ 64 ∧ r.outstanding ≤ w + r.size
  /-- `size - outstanding_offset`, the room before the end in a receive. -/
  room_sub : r.outstanding ≤ r.size
  /-- The debug assertion that the count is whole packets, `offset + num_bytes` and
  `received_total + num_bytes`, in a receive past its checks. The response records this offset and
  count, so reading it back sums the same two. -/
  receive_add : ∀ most a w, r.packetLength ∣ most → r.offsetOfAddress a = .ok w →
    r.packetLength ∣ r.handout most w ∧ r.outstanding + r.handout most w < 2 ^ 64 ∧
      r.received + r.handout most w < 2 ^ 64
  /-- `received_total - released_total`, the outstanding bytes. -/
  outstanding_sub : r.released ≤ r.received
  /-- `done_offset + num_bytes` and `released_total + num_bytes`, in a release past its checks. -/
  release_add : ∀ n, n ≤ r.outstandingBytes → r.done + n < 2 ^ 64 ∧ r.released + n < 2 ^ 64
  /-- The read address that setup programs. -/
  setup_address : r.AddressFits r.done
  /-- The read address that a release programs. -/
  release_address : ∀ n, r.AddressFits ((r.done + n) % r.size)
  /-- The read address that a clear programs. -/
  clear_address : ∀ a w, r.offsetOfAddress a = .ok w → r.AddressFits w

/-! ### Bounds from the construction-time checks -/

/-- The decode reads an address that passed the range check as at least the start. -/
theorem decode_sub_of_in_range {r : Reader} {a : UInt32}
    (h : (a < r.startAddress || r.endAddress < a) = false) : r.startAddress.toNat ≤ a.toNat := by
  have hlo : ¬ a < r.startAddress := by
    intro hlt
    simp [hlt] at h
  exact UInt32.le_iff_toNat_le.mp (UInt32.not_lt.mp hlo)

section WellFormed

variable {r : Reader} (hr : r.WellFormed)
include hr

/-- The buffer ends inside the 32-bit address space, so it is smaller than `2 ^ 32`. -/
theorem WellFormed.start_add_size_lt : r.startAddress.toNat + r.size < 2 ^ 32 := by
  have hend := hr.accepts.end_le
  unfold wordMax at hend
  change r.startAddress.toNat + r.size ≤ 4294967295 at hend
  omega

theorem WellFormed.addressFits {off : Nat} (h : off < r.size) : r.AddressFits off := by
  have := hr.start_add_size_lt
  exact ⟨by omega, by omega⟩

/-- The availability adds the size to an offset below it, and subtracts a cursor below it. -/
theorem available_sub_of_decode (hout : r.outstanding < r.size) {a : UInt32} {w : Nat}
    (hw : r.offsetOfAddress a = .ok w) : w + r.size < 2 ^ 64 ∧ r.outstanding ≤ w + r.size := by
  have hlt := (offsetOfAddress_eq_ok hr hw).1
  have hsize := hr.start_add_size_lt
  exact ⟨by omega, by omega⟩

end WellFormed

/-! ### Bounds from the cursor invariant -/

section Cursors

variable {b : Nat} {r : Reader} (hc : Cursors b r)
include hc

/-- A receive's count stays within the room before the end, so both its sums stay small: the
offset plus the count is at most the size, and the received total, below `2 ^ 64 - size`, grows by
no more than the size. -/
theorem Cursors.receive_add (hbound : r.received < 2 ^ 64 - r.size) {most : Nat} {a : UInt32}
    {w : Nat} (hmost : r.packetLength ∣ most) (hw : r.offsetOfAddress a = .ok w) :
    r.packetLength ∣ r.handout most w ∧ r.outstanding + r.handout most w < 2 ^ 64 ∧
      r.received + r.handout most w < 2 ^ 64 := by
  have hroom : r.handout most w ≤ r.size - r.outstanding := Nat.min_le_right _ _
  have hlt := hc.outstanding_lt
  have hsize := hc.wellFormed.start_add_size_lt
  exact ⟨hc.dvd_handout hmost (offsetOfAddress_eq_ok hc.wellFormed hw).2, by omega, by omega⟩

/-- A release gives back no more than is outstanding, so the done cursor, below the size, and the
released total grow by less than `2 ^ 64 - size`. -/
theorem Cursors.release_add (hbound : r.received < 2 ^ 64 - r.size) {n : Nat}
    (hn : n ≤ r.outstandingBytes) : r.done + n < 2 ^ 64 ∧ r.released + n < 2 ^ 64 := by
  have hdone := hc.done_lt
  have hle := hc.released_le
  unfold outstandingBytes at hn
  exact ⟨by omega, by omega⟩

end Cursors

/-- **No operation of a reader leaves its machine words.** For a reader that public operations
reached from one that `Reader.new?` built, over any backend whose status and written address read
anything at every step, and as long as fewer than `2 ^ 64 - size` bytes have been handed out
since the last clear: no remainder is by zero, neither the room before the end nor the bytes
available nor the written offset nor the outstanding bytes is a difference below zero, the
counts a receive hands out are whole packets, the sums of a receive and a release fit 64 bits,
and every read address programmed is computed exactly in 32 bits. -/
theorem Reachable.no_overflow {b : Nat} {r : Reader} (h : Reachable β b r)
    (hbound : r.received < 2 ^ 64 - r.size) : r.NoOverflow := by
  have hc := h.cursors
  have hr := hc.wellFormed
  refine
    { packetLength_pos := hr.packetLength_pos
      size_pos := hr.size_pos
      decode_sub := fun _ ha => decode_sub_of_in_range ha
      available_sub := fun _ _ hw => available_sub_of_decode hr hc.outstanding_lt hw
      room_sub := Nat.le_of_lt hc.outstanding_lt
      receive_add := fun _ _ _ hmost hw => hc.receive_add hbound hmost hw
      outstanding_sub := hc.released_le
      release_add := fun _ hn => hc.release_add hbound hn
      setup_address := hr.addressFits hc.done_lt
      release_address := fun _ => hr.addressFits (Nat.mod_lt _ hr.size_pos)
      clear_address := fun _ _ hw => hr.addressFits (offsetOfAddress_eq_ok hr hw).1 }

theorem no_overflow_sampleReader :
    let r₁ := ((sampleReader.perform (.receive 64 128)).run sampleBlock256).1.1
    let r₂ := ((r₁.perform (.release 64)).run sampleBlock256).1.1
    Reachable Block 0 r₂ ∧ r₂.received = 128 ∧ r₂.received < 2 ^ 64 - r₂.size ∧
      r₂.NoOverflow := by
  have h := reachable_release_sampleReader
  refine ⟨h, by decide, ?hbound, Reachable.no_overflow h ?hbound⟩
  decide

end Reader

end PacketRing
