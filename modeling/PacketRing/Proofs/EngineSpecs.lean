import Mathlib
import PacketRing.Engine.Transfer

/-!
# What a production does

The simulated engine measures its buffer in 32-bit words: offsets are wrapping differences taken
modulo the size, and the unreleased count adds the size before it subtracts. For a buffer of
positive size up to `2 ^ 31` bytes none of these words overflows, and each reads in `Nat` as the
ring arithmetic it stands for. This file states that reading once per function, so that proofs
about runs of the engine cite these lemmas and never unfold the engine.

Main statements:

* `Engine.unreleased_eq` and `Engine.free_eq`: the distance from the read offset forward to the
  written offset, and the room left after one packet is kept free;
* `Engine.plan_eq`: the bytes of a production are the whole packets of `min k free`;
* `Engine.produce_eq`: a production never aborts, and its engine is `Engine.advance` by the
  planned amount;
* `Status.hasErrors_union_writeDone`, `Status.hasErrors_diff`: raising `writeDone` or clearing
  flags adds no error.
-/

namespace PacketRing

/-! ### Error flags -/

namespace Status

theorem hasErrors_eq_false_iff {s : Status} :
    s.hasErrors = false ↔ ∀ f : Flag, f.isError = true → s.has f = false := by
  simp only [hasErrors, isEmpty, Bool.not_eq_false', List.all_eq_true, has_errors,
    Bool.not_eq_true', Bool.and_eq_false_iff]
  constructor
  · intro h f hf
    rcases h f (Flag.mem_all f) with h | h
    · exact h
    · rw [hf] at h
      cases h
  · intro h f _
    cases hf : f.isError with
    | false => exact Or.inr rfl
    | true => exact Or.inl (h f hf)

/-- Raising `writeDone` raises no error. -/
theorem hasErrors_union_writeDone (s : Status) :
    (s ∪ .single .writeDone).hasErrors = s.hasErrors := by
  have herr : (s ∪ .single .writeDone).errors = s.errors := by
    ext f
    cases f <;> simp [single, Flag.isError]
  simp only [hasErrors, herr]

/-- Clearing flags from a set without errors leaves it without errors. -/
theorem hasErrors_diff {s : Status} (t : Status) (h : s.hasErrors = false) :
    (s \ t).hasErrors = false := by
  rw [hasErrors_eq_false_iff] at h ⊢
  intro f hf
  simp [h f hf]

end Status

theorem toNat_min_word (a b : UInt32) : (min a b).toNat = min a.toNat b.toNat := by
  show (if a ≤ b then a else b).toNat = _
  by_cases h : a ≤ b
  · rw [if_pos h, Nat.min_eq_left (UInt32.le_iff_toNat_le.mp h)]
  · rw [if_neg h, Nat.min_eq_right (by rw [UInt32.le_iff_toNat_le] at h; omega)]

namespace Engine

variable {e : Engine}

/-! ### Offsets and distances -/

theorem offsetOf_lt (hS : 0 < e.size.toNat) (a : UInt32) :
    (e.offsetOf a).toNat < e.size.toNat := by
  rw [offsetOf, UInt32.toNat_mod]
  exact Nat.mod_lt _ hS

/-- The offset of an address inside the buffer is its distance from the start. -/
theorem offsetOf_toNat {a : UInt32} {x : Nat}
    (ha : a.toNat = e.startAddress.toNat + x) (hx : x < e.size.toNat) :
    (e.offsetOf a).toNat = x := by
  have hle : e.startAddress ≤ a := by
    rw [UInt32.le_iff_toNat_le]
    omega
  rw [offsetOf, UInt32.toNat_mod, UInt32.toNat_sub_of_le _ _ hle, ha, Nat.add_sub_cancel_left,
    Nat.mod_eq_of_lt hx]

theorem size_ne_zero (hS : 0 < e.size.toNat) : e.size ≠ 0 := by
  intro h
  rw [h] at hS
  exact Nat.lt_irrefl 0 hS

/-- A buffer of positive size lies below the top of the address space. -/
theorem start_add_size_lt (hS : 0 < e.size.toNat) :
    e.startAddress.toNat + e.size.toNat < 2 ^ 32 := by
  have hend := e.endAddress.toNat_lt
  rw [size_toNat] at hS ⊢
  omega

/-- With the written offset plus the size inside 32 bits, the unreleased bytes of a nonempty
buffer are the distance from the read offset forward to the written offset. -/
theorem unreleased_of_fits (hS : 0 < e.size.toNat)
    (hfit : (e.offsetOf e.writtenAddress).toNat + e.size.toNat < 2 ^ 32) :
    ∃ u, e.unreleased = .ok u ∧ u.toNat =
      ((e.offsetOf e.writtenAddress).toNat + e.size.toNat - (e.offsetOf e.readAddress).toNat) %
        e.size.toNat := by
  have hr := offsetOf_lt hS e.readAddress
  have hsum : (e.offsetOf e.writtenAddress + e.size).toNat =
      (e.offsetOf e.writtenAddress).toNat + e.size.toNat := by
    rw [UInt32.toNat_add]
    exact Nat.mod_eq_of_lt hfit
  have hle : e.offsetOf e.readAddress ≤ e.offsetOf e.writtenAddress + e.size := by
    rw [UInt32.le_iff_toNat_le, hsum]
    omega
  refine ⟨(e.offsetOf e.writtenAddress + e.size - e.offsetOf e.readAddress) % e.size, ?_, ?_⟩
  · rw [unreleased, if_neg (size_ne_zero hS), addWords?_eq_ok.mpr ⟨hfit, rfl⟩]
    rfl
  · rw [UInt32.toNat_mod, UInt32.toNat_sub_of_le _ _ hle, hsum]

/-- The free bytes are the size less one packet less the unreleased bytes, each difference
stopping at zero. -/
theorem free_toNat {u f : UInt32} (hu : e.unreleased = .ok u) (hf : e.free = .ok f) :
    f.toNat = e.size.toNat - e.packetLength.toNat - u.toNat := by
  rw [free, hu] at hf
  cases hf
  rw [toNat_subSat, toNat_subSat]

section Sized

variable (hS : 0 < e.size.toNat) (hS2 : e.size.toNat ≤ 2 ^ 31)
include hS hS2

/-- The unreleased bytes are the distance from the read offset forward to the written offset;
for a buffer of at most `2 ^ 31` bytes the sum in it stays within 32 bits. -/
theorem unreleased_eq :
    ∃ u, e.unreleased = .ok u ∧ u.toNat =
      ((e.offsetOf e.writtenAddress).toNat + e.size.toNat - (e.offsetOf e.readAddress).toNat) %
        e.size.toNat := by
  have hw := offsetOf_lt hS e.writtenAddress
  exact unreleased_of_fits hS (by omega)

/-- The free bytes are the size less one packet less the unreleased bytes, stopping at zero. -/
theorem free_eq :
    ∃ f, e.free = .ok f ∧ f.toNat = e.size.toNat - e.packetLength.toNat -
      ((e.offsetOf e.writtenAddress).toNat + e.size.toNat - (e.offsetOf e.readAddress).toNat) %
        e.size.toNat := by
  obtain ⟨u, hu, hut⟩ := unreleased_eq hS hS2
  have hf : e.free = .ok (subSat (subSat e.size e.packetLength) u) := by
    rw [free, hu]
    rfl
  exact ⟨_, hf, by rw [free_toNat hu hf, hut]⟩

end Sized

/-! ### Programming aligned addresses -/

/-- An address on a packet boundary raises no flag. -/
theorem checkAligned_of_dvd {a : UInt32} (h : e.packetLength.toNat ∣ a.toNat) (f : Flag) :
    e.checkAligned a f = e := by
  have hmod : a % e.packetLength = 0 := by
    apply UInt32.toNat_inj.mp
    rw [UInt32.toNat_mod, UInt32.toNat_zero]
    exact Nat.mod_eq_zero_of_dvd h
  unfold checkAligned
  rw [if_neg]
  rintro ⟨-, hne⟩
  exact hne hmod

theorem setStart_of_dvd {a : UInt32} (h : e.packetLength.toNat ∣ a.toNat) :
    Registers.setStart a e = { e with startAddress := a, writtenAddress := a } := by
  show { e.checkAligned a .startUnaligned with startAddress := a, writtenAddress := a } = _
  rw [checkAligned_of_dvd h]

theorem setEnd_of_dvd {a : UInt32} (h : e.packetLength.toNat ∣ a.toNat) :
    Registers.setEnd a e = { e with endAddress := a } := by
  show { e.checkAligned a .endUnaligned with endAddress := a } = _
  rw [checkAligned_of_dvd h]

theorem setRead_of_dvd {a : UInt32} (h : e.packetLength.toNat ∣ a.toNat) :
    Registers.setRead a e = { e with readAddress := a } := by
  show { e.checkAligned a .readUnaligned with readAddress := a } = _
  rw [checkAligned_of_dvd h]

/-! ### Production -/

/-- The engine after writing `n` bytes at its written offset: the written address moves past
them and `writeDone` is raised; writing no bytes changes nothing. -/
def advance (e : Engine) (n : UInt32) : Engine :=
  if n = 0 then e
  else
    { e with
      writtenAddress := e.startAddress + (e.offsetOf e.writtenAddress + n) % e.size
      status := e.status ∪ .single .writeDone }

/-- An advance keeps every register but the written address and the status. -/
theorem advance_eq (n : UInt32) :
    e.advance n = { e with
      writtenAddress := (e.advance n).writtenAddress, status := (e.advance n).status } := by
  unfold advance
  split <;> rfl

theorem hasErrors_advance (n : UInt32) : (e.advance n).status.hasErrors = e.status.hasErrors := by
  unfold advance
  split
  · rfl
  · exact Status.hasErrors_union_writeDone e.status

/-- Writing `n > 0` bytes moves the written address to the start plus the written offset
advanced by `n`, modulo the size. -/
theorem advance_writtenAddress_toNat (hS : 0 < e.size.toNat) {n : UInt32} (hn : n ≠ 0)
    (hsum : (e.offsetOf e.writtenAddress).toNat + n.toNat < 2 ^ 32) :
    (e.advance n).writtenAddress.toNat = e.startAddress.toNat +
      ((e.offsetOf e.writtenAddress).toNat + n.toNat) % e.size.toNat := by
  have hlt := start_add_size_lt hS
  have hoff : ((e.offsetOf e.writtenAddress + n) % e.size).toNat =
      ((e.offsetOf e.writtenAddress).toNat + n.toNat) % e.size.toNat := by
    rw [UInt32.toNat_mod, UInt32.toNat_add, Nat.mod_eq_of_lt hsum]
  have hmod := Nat.mod_lt ((e.offsetOf e.writtenAddress).toNat + n.toNat) hS
  simp only [advance, if_neg hn]
  rw [UInt32.toNat_add, hoff]
  omega

/-- A commit whose sum stays within 32 bits advances the engine by the transfer's amount. -/
theorem commit_eq {t : Transfer}
    (hsum : (e.offsetOf e.writtenAddress).toNat + t.amount.toNat < 2 ^ 32) :
    e.commit t = .ok (e.advance t.amount) := by
  unfold commit advance
  by_cases h0 : t.amount = 0
  · rw [if_pos h0, if_pos h0]
  · have hadd : addWords? (e.offsetOf e.writtenAddress) t.amount =
        .ok (e.offsetOf e.writtenAddress + t.amount) :=
      addWords?_eq_ok.mpr ⟨hsum, rfl⟩
    rw [if_neg h0, if_neg h0, hadd]
    rfl

/-- The bytes a production plans: the whole packets of `min k free` while the engine is on,
none while it is off. -/
theorem plan_eq (hsize : e.size ≠ 0) (hpl : e.packetLength ≠ 0) {f : UInt32}
    (hf : e.free = .ok f) (k : UInt32) :
    ∃ t, e.plan k = .ok t ∧ t.amount.toNat =
      if e.enabled then
        min k.toNat f.toNat - min k.toNat f.toNat % e.packetLength.toNat
      else 0 := by
  unfold plan
  cases hen : e.enabled with
  | false => exact ⟨{}, rfl, rfl⟩
  | true =>
    simp only [Bool.not_true, Bool.false_or, hsize, decide_false, Bool.false_eq_true, ite_false,
      hf, hpl, if_true]
    -- the amount is computed in words; it reads as the same rounding down in `Nat`
    have hmin := toNat_min_word k f
    have hmod : (min k f % e.packetLength).toNat =
        min k.toNat f.toNat % e.packetLength.toNat := by
      rw [UInt32.toNat_mod, hmin]
    have hn : (min k f - min k f % e.packetLength).toNat =
        min k.toNat f.toNat - min k.toNat f.toNat % e.packetLength.toNat := by
      have hle : min k f % e.packetLength ≤ min k f := by
        rw [UInt32.le_iff_toNat_le, hmod, hmin]
        exact Nat.mod_le _ _
      rw [UInt32.toNat_sub_of_le _ _ hle, hmod, hmin]
    by_cases h0 : min k f - min k f % e.packetLength = 0
    · refine ⟨{}, by simp only [bind, Except.bind, h0, ite_true]; rfl, ?_⟩
      rw [← hn, h0]
    · refine ⟨⟨min k f - min k f % e.packetLength, runs e.size (e.offsetOf e.writtenAddress)
        (min k f - min k f % e.packetLength)⟩, ?_, hn⟩
      simp only [bind, Except.bind, h0, ite_false]
      rfl

/-- **A production never aborts** on a buffer of positive size up to `2 ^ 31` bytes with a
nonzero packet length: it plans the whole packets of `min k free` and advances the engine by
them. -/
theorem produce_eq (hS : 0 < e.size.toNat) (hS2 : e.size.toNat ≤ 2 ^ 31)
    (hpl : e.packetLength ≠ 0) {f : UInt32} (hf : e.free = .ok f) (k : UInt32) :
    ∃ t, e.produce k = .ok (t, e.advance t.amount) ∧ t.amount.toNat =
      if e.enabled then
        min k.toNat f.toNat - min k.toNat f.toNat % e.packetLength.toNat
      else 0 := by
  obtain ⟨t, hplan, hamt⟩ := plan_eq (size_ne_zero hS) hpl hf k
  -- the amount is at most the free bytes, hence below the size, so the commit cannot abort
  have hfree : f.toNat ≤ e.size.toNat := by
    obtain ⟨f', hf', hft⟩ := free_eq hS hS2
    rw [hf] at hf'
    cases hf'
    omega
  have hle : t.amount.toNat ≤ e.size.toNat := by
    have : min k.toNat f.toNat ≤ f.toNat := Nat.min_le_right _ _
    split at hamt <;> omega
  have hw := offsetOf_lt hS e.writtenAddress
  have hcommit := commit_eq (e := e) (t := t) (by omega)
  refine ⟨t, ?_, hamt⟩
  rw [produce, hplan]
  simp only [bind, Except.bind, hcommit]
  rfl

end Engine

end PacketRing
