import PacketRing.Fault

/-!
# Buffers and reader configuration

A buffer is a run of bytes that the engine reaches at a 32-bit bus address; the reader views the
same bytes through its own memory. A configuration fixes the packet length, the unit in which the
engine writes and the reader hands out bytes, and the status flags that raise an interrupt.

A buffer can serve a configuration when the packet length is positive, the buffer is not empty,
both its size and its bus address are multiples of the packet length, and its last byte lies
inside the 32-bit address space. `Config.check` tests these in that order and reports the first
that fails.

Main definitions: `Buffer`, `Span`, `Buffer.endAddress`, `Buffer.identityMapped`, `Config`,
`Config.check`.
-/

namespace PacketRing

/-- The largest 32-bit bus address, `2 ^ 32 - 1`. -/
def wordMax : Nat := 4294967295

/-- A buffer of `size` bytes at bus address `busAddress`. `region` names the memory that holds
the bytes, so that views taken of one memory are told apart from those of another. -/
structure Buffer where
  region : Nat
  busAddress : UInt32
  size : Nat
deriving DecidableEq, Repr

/-- A run of `length` bytes of a buffer, starting `offset` bytes after its first byte. -/
structure Span where
  offset : Nat
  length : Nat
deriving DecidableEq, Repr

namespace Buffer

/-- The bus address one past the last byte. The sum must itself be a 32-bit address, since the
engine compares its written address against it. -/
def endAddress (b : Buffer) : Except Fault UInt32 :=
  if b.busAddress.toNat + b.size ≤ wordMax then .ok (b.busAddress + b.size.toUInt32)
  else .error (.addressOverflow b.busAddress.toNat b.size)

/-- A buffer whose bus address is its address in memory. Memory reaches further than the bus, so
an address above the 32-bit range has no bus address. -/
def identityMapped (address size : Nat) : Except Fault Buffer :=
  if address ≤ wordMax then .ok ⟨address, address.toUInt32, size⟩
  else .error (.addressOverflow address size)

theorem endAddress_eq_ok {b : Buffer} {e : UInt32} :
    b.endAddress = .ok e ↔ b.busAddress.toNat + b.size ≤ wordMax ∧
      e.toNat = b.busAddress.toNat + b.size := by
  unfold endAddress wordMax
  split
  · have hsum : (b.busAddress + b.size.toUInt32).toNat = b.busAddress.toNat + b.size := by
      simp only [UInt32.toNat_add, Nat.toUInt32_eq, UInt32.toNat_ofNat']
      omega
    constructor
    · intro h
      cases h
      exact ⟨by assumption, hsum⟩
    · rintro ⟨-, h⟩
      exact congrArg Except.ok (UInt32.toNat_inj.mp (hsum.trans h.symm))
  · constructor
    · intro h
      cases h
    · rintro ⟨h, -⟩
      contradiction

end Buffer

/-- The packet length, and the status flags that raise an interrupt. -/
structure Config where
  packetLength : Nat
  mask : Status := {}
deriving DecidableEq, Repr

namespace Config

/-- Tests, in this order, that the packet length is positive, the buffer is not empty, its size
and its bus address are multiples of the packet length, and it ends inside the address space. -/
def check (c : Config) (b : Buffer) : Except Fault Unit :=
  if c.packetLength = 0 then .error .zeroPacketLength
  else if b.size = 0 then .error .emptyBuffer
  else if b.size % c.packetLength ≠ 0 then .error (.sizeUnaligned b.size c.packetLength)
  else if b.busAddress.toNat % c.packetLength ≠ 0 then
    .error (.addressUnaligned b.busAddress c.packetLength)
  else b.endAddress.map fun _ => ()

/-- The buffers that a configuration accepts. -/
structure Accepts (c : Config) (b : Buffer) : Prop where
  packetLength_pos : 0 < c.packetLength
  size_pos : 0 < b.size
  size_dvd : c.packetLength ∣ b.size
  address_dvd : c.packetLength ∣ b.busAddress.toNat
  end_le : b.busAddress.toNat + b.size ≤ wordMax

theorem check_eq_ok {c : Config} {b : Buffer} : c.check b = .ok () ↔ c.Accepts b := by
  unfold check
  by_cases h1 : c.packetLength = 0
  · rw [if_pos h1]
    exact ⟨nofun, fun h => absurd h.packetLength_pos (by omega)⟩
  by_cases h2 : b.size = 0
  · rw [if_neg h1, if_pos h2]
    exact ⟨nofun, fun h => absurd h.size_pos (by omega)⟩
  by_cases h3 : b.size % c.packetLength ≠ 0
  · rw [if_neg h1, if_neg h2, if_pos h3]
    exact ⟨nofun, fun h => (h3 (Nat.mod_eq_zero_of_dvd h.size_dvd)).elim⟩
  by_cases h4 : b.busAddress.toNat % c.packetLength ≠ 0
  · rw [if_neg h1, if_neg h2, if_neg h3, if_pos h4]
    exact ⟨nofun, fun h => (h4 (Nat.mod_eq_zero_of_dvd h.address_dvd)).elim⟩
  rw [if_neg h1, if_neg h2, if_neg h3, if_neg h4]
  have d3 := Nat.dvd_of_mod_eq_zero (Classical.not_not.mp h3)
  have d4 := Nat.dvd_of_mod_eq_zero (Classical.not_not.mp h4)
  by_cases h5 : b.busAddress.toNat + b.size ≤ wordMax
  · rw [Buffer.endAddress, if_pos h5]
    exact ⟨fun _ => ⟨Nat.pos_of_ne_zero h1, Nat.pos_of_ne_zero h2, d3, d4, h5⟩, fun _ => rfl⟩
  · rw [Buffer.endAddress, if_neg h5]
    exact ⟨nofun, fun h => absurd h.end_le h5⟩

end Config

end PacketRing
