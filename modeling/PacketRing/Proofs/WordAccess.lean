import Mathlib
import PacketRing.Registers.Block

/-!
# Word accesses by byte offset

A register of the block is reached by its byte offset. `Block.locate` accepts an offset only if it
is a multiple of four and its word ends inside the block; the end of the word is computed before
it is compared, so the sum itself may leave the machine's offsets first.

Over all offsets a machine word can hold, exactly three things happen (`access_stays_in_block`):

* the seven offsets `0, 4, …, 24` reach the register whose word is `offset / 4`: a read gives
  that register and a write replaces that register and no other;
* the one aligned offset `2 ^ 64 - 4` makes the word's end overflow, and the access aborts on the
  sum before any comparison (`top_offset_overflows`);
* every other offset aborts with the out-of-bounds report that names it.

An access that aborts leaves the block alone, since it returns no block. The register accesses of
the block's `Registers` instance are the word accesses at the registers' offsets
(`read_register`, `write_register`), so none of them aborts.
-/

namespace PacketRing

/-- Every word of the block is the word of a register. -/
theorem Register.exists_index (i : Fin 7) : ∃ r : Register, r.index = i := by
  fin_cases i
  exacts [⟨.config, rfl⟩, ⟨.status, rfl⟩, ⟨.mask, rfl⟩, ⟨.start, rfl⟩, ⟨.stop, rfl⟩,
    ⟨.written, rfl⟩, ⟨.read, rfl⟩]

namespace Block

/-! ### Where an offset leads -/

section Locate

variable {offset : Nat} {outside : Abort}

/-- The one aligned offset whose word ends past the largest offset: the sum aborts. -/
theorem locate_top : locate (offsetMax - 3) outside = .error .addOverflow := by
  unfold locate offsetMax
  rw [if_neg (by omega), if_pos (by omega)]

/-- An offset that names no word of the block, and is not the top aligned offset, is refused as
outside the block. -/
theorem locate_outside (hword : ∀ i : Fin 7, offset ≠ 4 * i) (htop : offset ≠ offsetMax - 3)
    (h : offset ≤ offsetMax) : locate offset outside = .error outside := by
  unfold locate offsetMax
  unfold offsetMax at htop h
  split
  · rfl
  split
  · -- an aligned offset whose word ends past the largest offset is the top one
    omega
  split
  · -- an aligned offset whose word fits is the offset of a word
    have hne : offset ≠ 4 * (offset / 4) := hword ⟨offset / 4, by omega⟩
    omega
  · rfl

end Locate

/-- Reading a register of the instance is reading the word at its offset. -/
theorem read_register (b : Block) (r : Register) :
    b.read (4 * (r.index : Nat)) = .ok (b.get r) := by
  rw [read, locate_eq_ok.mpr rfl]
  rfl

/-- Writing a register of the instance is writing the word at its offset. -/
theorem write_register (b : Block) (r : Register) (v : UInt32) :
    b.write (4 * (r.index : Nat)) v = .ok (b.put r v) := by
  rw [write, locate_eq_ok.mpr rfl]
  rfl

/-! ### Every offset -/

/-- **Word accesses stay inside the block.** For every offset of the machine, a read and a write
at it reach register `r` when the offset is `4 * r.index`, and then the write changes that
register alone (`get_put`); the top aligned offset `2 ^ 64 - 4` aborts on the overflowing sum;
every other offset aborts with the out-of-bounds report naming it. -/
theorem access_stays_in_block (b : Block) (offset : Nat) (v : UInt32) (h : offset ≤ offsetMax) :
    (∃ r : Register, offset = 4 * (r.index : Nat) ∧ b.read offset = .ok (b.get r) ∧
      b.write offset v = .ok (b.put r v)) ∨
    (offset = offsetMax - 3 ∧ b.read offset = .error .addOverflow ∧
      b.write offset v = .error .addOverflow) ∨
    ((∀ r : Register, offset ≠ 4 * (r.index : Nat)) ∧ offset ≠ offsetMax - 3 ∧
      b.read offset = .error (.readOutOfBounds offset) ∧
      b.write offset v = .error (.writeOutOfBounds offset)) := by
  by_cases hword : ∃ r : Register, offset = 4 * (r.index : Nat)
  · obtain ⟨r, rfl⟩ := hword
    exact .inl ⟨r, rfl, read_register b r, write_register b r v⟩
  by_cases htop : offset = offsetMax - 3
  · subst htop
    refine .inr (.inl ⟨rfl, ?_, ?_⟩)
    · rw [read, locate_top]
      rfl
    · rw [write, locate_top]
      rfl
  · simp only [not_exists] at hword
    -- no word of the block lies there, since every word is a register's
    have hfar : ∀ i : Fin 7, offset ≠ 4 * i := fun i => by
      obtain ⟨r, rfl⟩ := Register.exists_index i
      exact hword r
    refine .inr (.inr ⟨hword, htop, ?_, ?_⟩)
    · rw [read, locate_outside hfar htop h]
      rfl
    · rw [write, locate_outside hfar htop h]
      rfl

theorem access_stays_in_block_lastWord :
    24 ≤ offsetMax ∧
      ((∃ r : Register, 24 = 4 * (r.index : Nat) ∧ zero.read 24 = .ok (zero.get r) ∧
          zero.write 24 7 = .ok (zero.put r 7)) ∨
        (24 = offsetMax - 3 ∧ zero.read 24 = .error .addOverflow ∧
          zero.write 24 7 = .error .addOverflow) ∨
        ((∀ r : Register, 24 ≠ 4 * (r.index : Nat)) ∧ 24 ≠ offsetMax - 3 ∧
          zero.read 24 = .error (.readOutOfBounds 24) ∧
          zero.write 24 7 = .error (.writeOutOfBounds 24))) :=
  ⟨by decide, access_stays_in_block zero 24 7 (by decide)⟩

/-- At the offset `2 ^ 64 - 4`, a multiple of four, a read and a write abort on the sum that
computes the word's end, not with the out-of-bounds report. -/
theorem top_offset_overflows :
    zero.read 18446744073709551612 = .error .addOverflow ∧
      zero.write 18446744073709551612 0 = .error .addOverflow :=
  ⟨rfl, rfl⟩

end Block

end PacketRing
