import PacketRing.Abort

/-!
# Arithmetic on 32-bit bus words

Bus addresses and the distances between them are 32-bit words. Three kinds of arithmetic occur:
a difference of addresses that wraps around the address space, a difference that stops at zero,
and a sum that must not leave the 32-bit range and aborts when it would.

Main definitions: `addWords?` and `subSat`, each with the lemma that reads it in `Nat`.
-/

namespace PacketRing

/-- The sum of two words, or `addOverflow` when it does not fit in 32 bits. -/
def addWords? (a b : UInt32) : Except Abort UInt32 :=
  if a.toNat + b.toNat < 4294967296 then .ok (a + b) else .error .addOverflow

/-- The difference of two words, or zero when the second is larger. -/
def subSat (a b : UInt32) : UInt32 := if b ≤ a then a - b else 0

theorem addWords?_eq_ok {a b c : UInt32} : addWords? a b = .ok c ↔
    a.toNat + b.toNat < 4294967296 ∧ (a + b) = c := by
  unfold addWords?
  split
  · simp_all
  · constructor
    · intro h
      cases h
    · intro h
      exact absurd h.1 (by omega)

theorem toNat_addWords? {a b c : UInt32} (h : addWords? a b = .ok c) :
    c.toNat = a.toNat + b.toNat := by
  obtain ⟨hlt, rfl⟩ := addWords?_eq_ok.mp h
  rw [UInt32.toNat_add]
  omega

theorem toNat_subSat (a b : UInt32) : (subSat a b).toNat = a.toNat - b.toNat := by
  unfold subSat
  split
  · rename_i h
    rw [UInt32.toNat_sub_of_le _ _ h]
  · rename_i h
    have : a.toNat < b.toNat := by
      rw [UInt32.le_iff_toNat_le] at h
      omega
    simp only [UInt32.toNat_zero]
    omega

end PacketRing
