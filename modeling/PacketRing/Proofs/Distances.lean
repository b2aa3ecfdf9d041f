import Mathlib
import PacketRing.Proofs.Production

/-!
# Where the engine's distance arithmetic overflows

The engine counts its unreleased bytes as the distance forward from its read offset to its
written offset, formed in 32-bit words: it adds the size to the written offset before it
subtracts the read offset. The written offset lies below the size, so the sum lies below twice
the size. For a buffer of at most `2 ^ 31` bytes it always fits; for a larger one it leaves the
range once the written offset reaches `2 ^ 32 - size`, and then the count aborts. The free space
and the production of a switched-on engine compute the count first and abort with it. Nothing
else in a production can leave the range: the bytes it writes are at most the free space, hence
at most the size, so the written offset plus them is no more than the sum that already fitted.

* `Engine.SumFits` — the buffer is empty, or the written offset plus the size is below `2 ^ 32`.
* `Engine.unreleased_ok_iff`, `Engine.free_ok_iff`, `Engine.produce_ok_iff` — each completes
  exactly when the sum fits, a production also needing a packet length.

The main statement is `Engine.distances_complete_iff_sum_fits`. A buffer of `3 * 2 ^ 30` bytes
whose written offset is `2 ^ 30` is out of range, and its unreleased count, free space and
production all abort (`Engine.unreleased_overflows_bigRing`).
-/

namespace PacketRing

/-- A sum of words whose value reaches `2 ^ 32` aborts. -/
theorem addWords?_of_overflow {a b : UInt32} (h : 2 ^ 32 ≤ a.toNat + b.toNat) :
    addWords? a b = .error .addOverflow := by
  unfold addWords?
  rw [if_neg (by omega)]

namespace Engine

variable {e : Engine}

/-- The sum in the unreleased count fits in 32 bits: the buffer is empty, so that nothing is
added, or the written offset plus the size is below `2 ^ 32`. -/
def SumFits (e : Engine) : Prop :=
  e.size = 0 ∨ (e.offsetOf e.writtenAddress).toNat + e.size.toNat < 2 ^ 32

instance (e : Engine) : Decidable e.SumFits := inferInstanceAs (Decidable (_ ∨ _))

theorem size_toNat_pos (h : e.size ≠ 0) : 0 < e.size.toNat := by
  rcases Nat.eq_zero_or_pos e.size.toNat with h0 | h0
  · exact absurd (UInt32.toNat_inj.mp (h0.trans UInt32.toNat_zero.symm)) h
  · exact h0

/-- Every buffer of at most `2 ^ 31` bytes: the written offset is below the size. -/
theorem sumFits_of_size_le (h : e.size.toNat ≤ 2 ^ 31) : e.SumFits := by
  by_cases h0 : e.size = 0
  · exact .inl h0
  · have := offsetOf_lt (size_toNat_pos h0) e.writtenAddress
    exact .inr (by omega)

/-! ### The unreleased count and the free space -/

theorem unreleased_of_size_eq_zero (h : e.size = 0) : e.unreleased = .ok 0 := by
  unfold unreleased
  rw [if_pos h]

/-- With the sum out of range, the unreleased count aborts. -/
theorem unreleased_of_not_fits (h : ¬ e.SumFits) : e.unreleased = .error .addOverflow := by
  simp only [SumFits, not_or, Nat.not_lt] at h
  unfold unreleased
  rw [if_neg h.1, addWords?_of_overflow h.2]
  rfl

theorem unreleased_ok_iff : (∃ u, e.unreleased = .ok u) ↔ e.SumFits := by
  constructor
  · rintro ⟨u, hu⟩
    by_contra h
    rw [unreleased_of_not_fits h] at hu
    cases hu
  · rintro (h0 | hfit)
    · exact ⟨0, unreleased_of_size_eq_zero h0⟩
    · by_cases h0 : e.size = 0
      · exact ⟨0, unreleased_of_size_eq_zero h0⟩
      · obtain ⟨u, hu, -⟩ := unreleased_of_fits (size_toNat_pos h0) hfit
        exact ⟨u, hu⟩

/-- An unreleased count is below the size, and zero for an empty buffer. -/
theorem unreleased_lt {u : UInt32} (hu : e.unreleased = .ok u) :
    (e.size = 0 ∧ u = 0) ∨ u.toNat < e.size.toNat := by
  by_cases h0 : e.size = 0
  · rw [unreleased_of_size_eq_zero h0] at hu
    cases hu
    exact .inl ⟨h0, rfl⟩
  · have hfit : e.SumFits := unreleased_ok_iff.mp ⟨u, hu⟩
    have hS := size_toNat_pos h0
    obtain ⟨u', hu', hut⟩ := unreleased_of_fits hS (hfit.resolve_left h0)
    rw [hu] at hu'
    cases hu'
    exact .inr (hut ▸ Nat.mod_lt _ hS)

theorem free_ok_iff : (∃ f, e.free = .ok f) ↔ e.SumFits := by
  rw [← unreleased_ok_iff]
  unfold free
  cases e.unreleased with
  | error a => simp [Except.map]
  | ok u => simp [Except.map]

/-- The free space is at most the size. -/
theorem free_le {f : UInt32} (hf : e.free = .ok f) : f.toNat ≤ e.size.toNat := by
  obtain ⟨u, hu⟩ := unreleased_ok_iff.mpr (free_ok_iff.mp ⟨f, hf⟩)
  rw [free_toNat hu hf]
  omega

/-! ### Production -/

/-- A switched-on engine with a nonempty buffer plans a transfer exactly when its free space is
computed and its packet length is not zero. -/
theorem plan_ok_iff_of_active (hon : e.enabled = true) (h0 : e.size ≠ 0) (k : UInt32) :
    (∃ t, e.plan k = .ok t) ↔ (∃ f, e.free = .ok f) ∧ e.packetLength ≠ 0 := by
  have hactive : (!e.enabled || decide (e.size = 0)) = false := by simp [hon, h0]
  constructor
  · rintro ⟨t, ht⟩
    unfold plan at ht
    rw [if_neg (by rw [hactive]; exact Bool.false_ne_true)] at ht
    cases hf : e.free with
    | error a =>
      simp only [hf, bind, Except.bind] at ht
      cases ht
    | ok f =>
      refine ⟨⟨f, rfl⟩, fun hpl => ?_⟩
      simp only [hf, bind, Except.bind, hpl, ite_true] at ht
      cases ht
  · rintro ⟨⟨f, hf⟩, hpl⟩
    obtain ⟨t, ht, -⟩ := plan_eq h0 hpl hf k
    exact ⟨t, ht⟩

/-- A planned transfer is always committed: it is empty, or it fits in the free space of an
engine whose sum fits, so the written offset plus it stays in range. -/
theorem commit_of_plan {k : UInt32} {t : Transfer} (ht : e.plan k = .ok t) :
    ∃ e', e.commit t = .ok e' := by
  by_cases ha : t.amount = 0
  · exact ⟨e, by rw [commit, if_pos ha]⟩
  -- a nonempty transfer was planned by a switched-on engine with a nonempty buffer
  have hactive : e.enabled = true ∧ e.size ≠ 0 := by
    by_contra hidle
    rw [plan_of_idle (by simpa only [not_and_or, Bool.not_eq_true, not_not] using hidle) k] at ht
    cases ht
    exact ha rfl
  obtain ⟨⟨f, hf⟩, hpl⟩ := (plan_ok_iff_of_active hactive.1 hactive.2 k).mp ⟨t, ht⟩
  obtain ⟨t', ht', hamt⟩ := plan_eq hactive.2 hpl hf k
  rw [ht] at ht'
  cases ht'
  have hfit := (free_ok_iff.mp ⟨f, hf⟩).resolve_left hactive.2
  have hle : t.amount.toNat ≤ f.toNat := by
    have : min k.toNat f.toNat ≤ f.toNat := Nat.min_le_right _ _
    split at hamt <;> omega
  have hfree := free_le hf
  exact ⟨_, commit_eq (by omega)⟩

theorem produce_ok_iff (k : UInt32) :
    (∃ r, e.produce k = .ok r) ↔
      e.enabled = false ∨ e.size = 0 ∨ (e.SumFits ∧ e.packetLength ≠ 0) := by
  by_cases hidle : e.enabled = false ∨ e.size = 0
  · exact ⟨fun _ => hidle.elim .inl (.inr ∘ .inl), fun _ => ⟨_, produce_of_idle hidle k⟩⟩
  -- a switched-on engine with a nonempty buffer completes exactly when it plans, since every
  -- planned transfer is committed
  obtain ⟨hon, h0⟩ : e.enabled = true ∧ e.size ≠ 0 := by simpa [not_or] using hidle
  have hplan := plan_ok_iff_of_active hon h0 k
  rw [← free_ok_iff]
  simp only [hon, h0, Bool.true_eq_false, false_or]
  constructor
  · rintro ⟨⟨t, e'⟩, h⟩
    exact hplan.mp ⟨t, plan_of_produce h⟩
  · intro h
    obtain ⟨t, ht⟩ := hplan.mpr h
    obtain ⟨e', he'⟩ := commit_of_plan ht
    exact ⟨(t, e'), produce_eq_ok_iff.mpr ⟨ht, he'⟩⟩

/-- **The engine's distances complete exactly when their sum fits in 32 bits**, which every buffer
of at most `2 ^ 31` bytes guarantees. The unreleased count completes, below the size and zero for
an empty buffer, exactly when the sum fits; so does the free space; and a production completes
exactly when the engine is switched off, its buffer is empty, or the sum fits and the packet
length is not zero. -/
theorem distances_complete_iff_sum_fits (e : Engine) :
    (e.size.toNat ≤ 2 ^ 31 → e.SumFits) ∧
    ((∃ u, e.unreleased = .ok u ∧ ((e.size = 0 ∧ u = 0) ∨ u.toNat < e.size.toNat)) ↔
      e.SumFits) ∧
    ((∃ f, e.free = .ok f) ↔ e.SumFits) ∧
    ∀ k, (∃ r, e.produce k = .ok r) ↔
      e.enabled = false ∨ e.size = 0 ∨ (e.SumFits ∧ e.packetLength ≠ 0) := by
  refine ⟨sumFits_of_size_le, ⟨?_, ?_⟩, free_ok_iff, produce_ok_iff⟩
  · rintro ⟨u, hu, -⟩
    exact unreleased_ok_iff.mp ⟨u, hu⟩
  · intro hfit
    obtain ⟨u, hu⟩ := unreleased_ok_iff.mpr hfit
    exact ⟨u, hu, unreleased_lt hu⟩

theorem distances_complete_iff_sum_fits_wrapRing :
    wrapRing.size.toNat ≤ 2 ^ 31 ∧ wrapRing.SumFits ∧ (∃ f, wrapRing.free = .ok f) ∧
      ∃ r, wrapRing.produce 192 = .ok r :=
  have h := distances_complete_iff_sum_fits wrapRing
  have hfit : wrapRing.SumFits := h.1 (by decide)
  ⟨by decide, hfit, h.2.2.1.mpr hfit, (h.2.2.2 192).mpr (.inr (.inr ⟨hfit, by decide⟩))⟩

/-- A switched-on engine with a buffer of `3 * 2 ^ 30` bytes from address `0`, whose written
address lies `2 ^ 30` bytes in. -/
def bigRing : Engine :=
  { packetLength := 64, enabled := true, endAddress := 3221225472, writtenAddress := 1073741824 }

/-- The unreleased count of `bigRing`, its free space and a production of one packet all abort,
although its read offset is `0` and its written offset `2 ^ 30`, a distance well inside the
buffer: the written offset plus the size is `2 ^ 32`. -/
theorem unreleased_overflows_bigRing :
    (bigRing.offsetOf bigRing.writtenAddress).toNat = 1073741824 ∧
      (bigRing.offsetOf bigRing.readAddress).toNat = 0 ∧
      bigRing.unreleased = .error .addOverflow ∧ bigRing.free = .error .addOverflow ∧
      bigRing.produce 64 = .error .addOverflow := by
  decide

end Engine

end PacketRing
