import Mathlib
import PacketRing.Proofs.Stream

/-!
# The bytes a production writes

A production lets the engine write whole packets into the free part of its ring. It starts at
the written offset `w`, runs to the end of the ring or of the transfer, and goes on from the start
of the ring for the rest, so that the bytes it writes are the `n` places of the ring from `w` on.
The free space keeps one packet back, so the written offset never comes round to the read offset
from behind: the unreleased count grows by exactly `n` and stays within the size less one packet.

* `Span.offsets`, `ringRange`, `ringRuns` — the places a run covers, the `n` places of a ring from
  `w`, and the two runs that cover them; `offsets_ringRuns` says that they do.
* `isGreatest_sub_mod` — rounding down to packets gives the largest whole number of packets.
* `Engine.runs_eq_ringRuns`, `Engine.plan_spans` — the runs of a planned transfer, read in `Nat`.
* `Engine.unreleased_advance` — writing `n` bytes of free space adds `n` to the unreleased count.
* `Engine.Writes` — what a production does to the transfer and to the engine.

The main statement is `Engine.produce_writes_free_packets`. A production that writes nothing
changes nothing, so a written address that was forced to the end of the buffer stays there
(`Engine.produce_nothing_keeps_written_address`); it is not moved to the start, the place that
address stands for.
-/

namespace PacketRing

/-! ### Places of a ring -/

/-- The buffer offsets a run covers, in order. -/
def Span.offsets (s : Span) : List Nat := List.range' s.offset s.length

/-- The `n` places of a ring of `size` places from `w` on, in order. -/
def ringRange (size w n : Nat) : List Nat := (List.range n).map fun i => (w + i) % size

/-- The runs that cover `n` places of a ring of `size` places from `w`: one up to the end of the
ring or of the count, and one from the start of the ring for the rest, if any is left. -/
def ringRuns (size w n : Nat) : List Span :=
  ⟨w, min n (size - w)⟩ :: if min n (size - w) < n then [⟨0, n - min n (size - w)⟩] else []

theorem length_ringRuns_le (size w n : Nat) : (ringRuns size w n).length ≤ 2 := by
  unfold ringRuns
  split <;> simp

/-- Places `w + i` below the end of the ring are not reduced. -/
theorem map_mod_eq_range' {S w m : Nat} (hm : w + m ≤ S) :
    ((List.range m).map fun i => (w + i) % S) = List.range' w m := by
  rw [List.range'_eq_map_range]
  apply List.map_congr_left
  intro i hi
  rw [List.mem_range] at hi
  exact Nat.mod_eq_of_lt (by omega)

/-- The two runs from `w` cover exactly the places of the ring from `w`, in order, as long as
they make no more than one turn. -/
theorem offsets_ringRuns {S w n : Nat} (hw : w < S) (hn : n ≤ S) :
    (ringRuns S w n).flatMap Span.offsets = ringRange S w n := by
  unfold ringRuns ringRange
  by_cases hfit : n ≤ S - w
  · -- the places stop before the end of the ring
    rw [Nat.min_eq_left hfit, if_neg (Nat.lt_irrefl n), map_mod_eq_range' (by omega)]
    simp [Span.offsets]
  · -- the count splits at the end of the ring, and the rest starts again at place zero
    obtain ⟨m, rfl⟩ : ∃ m, n = S - w + m := ⟨n - (S - w), by omega⟩
    have hm : m ≤ w := by omega
    have hwrap : ((List.range m).map fun j => (w + (S - w + j)) % S) = List.range' 0 m := by
      rw [List.range'_eq_map_range]
      apply List.map_congr_left
      intro j hj
      rw [List.mem_range] at hj
      rw [show w + (S - w + j) = S + j by omega, Nat.add_mod_left, Nat.mod_eq_of_lt (by omega),
        Nat.zero_add]
    rw [Nat.min_eq_right (by omega), if_pos (by omega), Nat.add_sub_cancel_left, List.range_add,
      List.map_append, List.map_map, map_mod_eq_range' (by omega)]
    simp only [Function.comp_def]
    rw [hwrap]
    simp [Span.offsets]

/-- Rounding `m` down to a multiple of `p` gives the largest multiple of `p` not above `m`. -/
theorem isGreatest_sub_mod {m p : Nat} (hp : 0 < p) :
    IsGreatest {x | p ∣ x ∧ x ≤ m} (m - m % p) := by
  refine ⟨⟨Nat.dvd_sub_mod m, Nat.sub_le m (m % p)⟩, ?_⟩
  rintro x ⟨⟨q, rfl⟩, hx⟩
  have hq : q ≤ m / p := (Nat.le_div_iff_mul_le hp).mpr (by rw [Nat.mul_comm]; exact hx)
  have hdiv := Nat.div_add_mod m p
  calc p * q ≤ p * (m / p) := Nat.mul_le_mul_left p hq
    _ = m - m % p := by omega

/-- Going `n` further from `w` adds `n` to the distance forward from `r`, as long as the sum stays
within one turn of the ring. -/
theorem ring_distance_add {S r w n : Nat} (hr : r < S) (h : (w + S - r) % S + n < S) :
    ((w + n) % S + S - r) % S = (w + S - r) % S + n := by
  -- going the distance forward from `r` lands on `w`, and `n` further on `w + n`
  have hback : (r + ((w + S - r) % S + n)) % S = (w + n) % S := by
    rw [← Nat.add_assoc, ← Nat.mod_add_mod, Nat.add_mod_mod,
      show r + (w + S - r) = w + S by omega, Nat.add_mod_right, Nat.mod_add_mod]
  calc ((w + n) % S + S - r) % S = ((r + ((w + S - r) % S + n)) % S + S - r % S) % S := by
        rw [hback, Nat.mod_eq_of_lt hr]
    _ = (w + S - r) % S + n := ring_distance h

namespace Engine

variable {e : Engine}

/-! ### The transfer -/

/-- The runs of a production computed in words are the runs of the ring read in `Nat`. -/
theorem runs_eq_ringRuns {size w n : UInt32} (hw : w < size) :
    runs size w n = ringRuns size.toNat w.toNat n.toNat := by
  have hmin : (min n (size - w)).toNat = min n.toNat (size.toNat - w.toNat) := by
    rw [toNat_min_word, UInt32.toNat_sub_of_le _ _ (UInt32.le_of_lt hw)]
  have hle : min n (size - w) ≤ n := by
    rw [UInt32.le_iff_toNat_le, hmin]
    exact Nat.min_le_left _ _
  unfold runs ringRuns
  simp only [hmin, UInt32.lt_iff_toNat_lt, UInt32.toNat_sub_of_le _ _ hle]

/-- A planned transfer reports no run when it is empty, and otherwise the runs of its amount from
the written offset. -/
theorem plan_spans {k : UInt32} {t : Transfer} (h : e.plan k = .ok t) :
    t.spans = if t.amount = 0 then [] else runs e.size (e.offsetOf e.writtenAddress) t.amount := by
  unfold plan at h
  split at h
  · cases h
    rfl
  cases hf : e.free with
  | error a =>
    rw [hf] at h
    cases h
  | ok f =>
    simp only [hf, bind, Except.bind] at h
    split at h
    · cases h
    split at h
    · cases h
      rfl
    · cases h
      simp only [if_neg ‹_›]

/-- The runs of a planned transfer of no more than the size cover exactly its amount of places
of the ring from the written offset, in order. -/
theorem offsets_plan (hS : 0 < e.size.toNat) {k : UInt32} {t : Transfer} (ht : e.plan k = .ok t)
    (hn : t.amount.toNat ≤ e.size.toNat) :
    t.spans.flatMap Span.offsets =
      ringRange e.size.toNat (e.offsetOf e.writtenAddress).toNat t.amount.toNat := by
  have hw := offsetOf_lt hS e.writtenAddress
  rw [plan_spans ht]
  by_cases h0 : t.amount = 0
  · rw [if_pos h0, h0]
    rfl
  · rw [if_neg h0, runs_eq_ringRuns hw]
    exact offsets_ringRuns hw hn

/-- A production completes exactly when it plans its transfer and commits it. -/
theorem produce_eq_ok_iff {k : UInt32} {t : Transfer} {e' : Engine} :
    e.produce k = .ok (t, e') ↔ e.plan k = .ok t ∧ e.commit t = .ok e' := by
  constructor
  · intro h
    unfold produce at h
    cases hp : e.plan k with
    | error a =>
      rw [hp] at h
      cases h
    | ok t' =>
      rw [hp] at h
      cases hc : e.commit t' with
      | error a =>
        simp only [bind, Except.bind, hc] at h
        cases h
      | ok e'' =>
        simp only [bind, Except.bind, hc, pure, Except.pure] at h
        cases h
        exact ⟨rfl, hc⟩
  · rintro ⟨hp, hc⟩
    rw [produce, hp]
    simp only [bind, Except.bind, hc]
    rfl

theorem plan_of_produce {k : UInt32} {t : Transfer} {e' : Engine}
    (h : e.produce k = .ok (t, e')) : e.plan k = .ok t :=
  (produce_eq_ok_iff.mp h).1

/-- A switched-off engine, or one with an empty buffer, plans no bytes. -/
theorem plan_of_idle (h : e.enabled = false ∨ e.size = 0) (k : UInt32) : e.plan k = .ok {} := by
  have hidle : (!e.enabled || decide (e.size = 0)) = true := by
    rcases h with h | h <;> simp [h]
  unfold plan
  rw [if_pos hidle]

/-- A switched-off engine, or one with an empty buffer, writes nothing and changes nothing. -/
theorem produce_of_idle (h : e.enabled = false ∨ e.size = 0) (k : UInt32) :
    e.produce k = .ok ({}, e) :=
  produce_eq_ok_iff.mpr ⟨plan_of_idle h k, commit_empty e⟩

/-! ### The engine after a production -/

@[simp] theorem advance_startAddress (n : UInt32) :
    (e.advance n).startAddress = e.startAddress := by
  unfold advance
  split <;> rfl

@[simp] theorem advance_endAddress (n : UInt32) : (e.advance n).endAddress = e.endAddress := by
  unfold advance
  split <;> rfl

@[simp] theorem advance_readAddress (n : UInt32) :
    (e.advance n).readAddress = e.readAddress := by
  unfold advance
  split <;> rfl

@[simp] theorem advance_size (n : UInt32) : (e.advance n).size = e.size := by
  simp only [size, advance_startAddress, advance_endAddress]

@[simp] theorem advance_offsetOf (n a : UInt32) : (e.advance n).offsetOf a = e.offsetOf a := by
  simp only [offsetOf, advance_startAddress, advance_size]

theorem advance_status (n : UInt32) :
    (e.advance n).status = if n = 0 then e.status else e.status ∪ .single .writeDone := by
  unfold advance
  split <;> rfl

/-- Writing `n` bytes of free space adds `n` to the unreleased count. -/
theorem unreleased_advance (hS : 0 < e.size.toNat) (hS2 : e.size.toNat ≤ 2 ^ 31) {u : UInt32}
    (hu : e.unreleased = .ok u) {n : UInt32} (hroom : u.toNat + n.toNat < e.size.toNat) :
    ∃ u', (e.advance n).unreleased = .ok u' ∧ u'.toNat = u.toNat + n.toNat := by
  by_cases h0 : n = 0
  · refine ⟨u, ?_, by rw [h0, UInt32.toNat_zero, Nat.add_zero]⟩
    rw [advance, if_pos h0]
    exact hu
  obtain ⟨u0, hu0, hut⟩ := unreleased_eq hS hS2
  rw [hu] at hu0
  cases hu0
  have hS' : 0 < (e.advance n).size.toNat := by rwa [advance_size]
  obtain ⟨u', hu', hu't⟩ := unreleased_eq hS' (by rwa [advance_size])
  refine ⟨u', hu', ?_⟩
  -- the written offset moves on by `n` and the read offset stays
  have hw := offsetOf_lt hS e.writtenAddress
  have hsum : (e.offsetOf e.writtenAddress).toNat + n.toNat < 2 ^ 32 := by omega
  have hwritten : (e.offsetOf (e.advance n).writtenAddress).toNat =
      ((e.offsetOf e.writtenAddress).toNat + n.toNat) % e.size.toNat :=
    offsetOf_toNat (advance_writtenAddress_toNat hS h0 hsum) (Nat.mod_lt _ hS)
  rw [hu't, advance_offsetOf, advance_offsetOf, advance_readAddress, advance_size, hwritten, hut]
  rw [hut] at hroom
  exact ring_distance_add (offsetOf_lt hS e.readAddress) hroom

/-- What a production of `k` bytes does, for an engine with free space `f` and unreleased count
`u`, writing the transfer `t` and leaving the engine `e'`. With `w` the written offset and `n` the
amount written: `n` is the largest whole number of packets within both `k` and `f`; an empty
transfer reports no run and changes nothing; otherwise its runs are the `ringRuns` from `w`, the
written address moves to the start plus `(w + n) mod size`, and `writeDone` is raised. Either way
the runs cover exactly the `n` places of the ring from `w`, every register but the written address
and the status is kept, and the unreleased count grows by exactly `n`, so that it stays within the
size less one packet if it was. -/
structure Writes (e : Engine) (k f u : UInt32) (t : Transfer) (e' : Engine) : Prop where
  amount_greatest :
    IsGreatest {x | e.packetLength.toNat ∣ x ∧ x ≤ min k.toNat f.toNat} t.amount.toNat
  spans_of_zero : t.amount = 0 → t.spans = []
  spans_of_ne_zero : t.amount ≠ 0 →
    t.spans = ringRuns e.size.toNat (e.offsetOf e.writtenAddress).toNat t.amount.toNat
  offsets_eq : t.spans.flatMap Span.offsets =
    ringRange e.size.toNat (e.offsetOf e.writtenAddress).toNat t.amount.toNat
  engine_of_zero : t.amount = 0 → e' = e
  written_of_ne_zero : t.amount ≠ 0 → e'.writtenAddress.toNat =
    e.startAddress.toNat + ((e.offsetOf e.writtenAddress).toNat + t.amount.toNat) % e.size.toNat
  status_of_ne_zero : t.amount ≠ 0 → e'.status = e.status ∪ .single .writeDone
  frame : e' = { e with writtenAddress := e'.writtenAddress, status := e'.status }
  unreleased_add : ∃ u', e'.unreleased = .ok u' ∧ u'.toNat = u.toNat + t.amount.toNat
  unreleased_le : u.toNat ≤ e.size.toNat - e.packetLength.toNat →
    ∃ u', e'.unreleased = .ok u' ∧ u'.toNat ≤ e.size.toNat - e.packetLength.toNat

/-- **A production writes exactly the free packets, in at most two runs, and never catches the
read address.** A switched-off engine, or one with an empty buffer, writes nothing and changes
nothing. A switched-on engine with a buffer of positive size up to `2 ^ 31` bytes and a positive
packet length completes a production of any `k` bytes, and it `Writes` them. -/
theorem produce_writes_free_packets (e : Engine) (k : UInt32) :
    ((e.enabled = false ∨ e.size = 0) → e.produce k = .ok ({}, e)) ∧
    (e.enabled = true → e.startAddress < e.endAddress → 0 < e.packetLength →
      e.size.toNat ≤ 2 ^ 31 →
      ∃ t e' u f, e.produce k = .ok (t, e') ∧ e.unreleased = .ok u ∧ e.free = .ok f ∧
        e.Writes k f u t e') := by
  refine ⟨fun h => produce_of_idle h k, fun hon hlt hpl hS2 => ?_⟩
  have hS : 0 < e.size.toNat := by
    rw [size_toNat]
    rw [UInt32.lt_iff_toNat_lt] at hlt
    omega
  have hpl' : 0 < e.packetLength.toNat := UInt32.lt_iff_toNat_lt.mp hpl
  obtain ⟨u, hu, hut⟩ := unreleased_eq hS hS2
  obtain ⟨f, hf, -⟩ := free_eq hS hS2
  obtain ⟨t, hprod, hamt⟩ := produce_eq hS hS2 (UInt32.pos_iff_ne_zero.mp hpl) hf k
  rw [if_pos hon] at hamt
  -- the amount is at most the free space, which is the size less one packet less `u`
  have hft := free_toNat hu hf
  have hult : u.toNat < e.size.toNat := hut ▸ Nat.mod_lt _ hS
  have hle : t.amount.toNat ≤ f.toNat := by
    have : min k.toNat f.toNat ≤ f.toNat := Nat.min_le_right _ _
    omega
  have hroom : u.toNat + t.amount.toNat < e.size.toNat := by omega
  obtain ⟨u', hu', hu't⟩ := unreleased_advance hS hS2 hu hroom
  have hplan := plan_of_produce hprod
  have hw := offsetOf_lt hS e.writtenAddress
  refine ⟨t, e.advance t.amount, u, f, hprod, hu, hf,
    { amount_greatest := hamt ▸ isGreatest_sub_mod hpl'
      spans_of_zero := fun h0 => by rw [plan_spans hplan, if_pos h0]
      spans_of_ne_zero := fun h0 => by rw [plan_spans hplan, if_neg h0, runs_eq_ringRuns hw]
      offsets_eq := offsets_plan hS hplan (by omega)
      engine_of_zero := fun h0 => by rw [advance, if_pos h0]
      written_of_ne_zero := fun h0 => advance_writtenAddress_toNat hS h0 (by omega)
      status_of_ne_zero := fun h0 => by rw [advance_status, if_neg h0]
      frame := advance_eq t.amount
      unreleased_add := ⟨u', hu', hu't⟩
      unreleased_le := fun h => ⟨u', hu', by omega⟩ }⟩

/-- A production reports at most two runs. -/
theorem Writes.length_spans_le {k f u : UInt32} {t : Transfer} {e' : Engine}
    (h : e.Writes k f u t e') : t.spans.length ≤ 2 := by
  by_cases h0 : t.amount = 0
  · rw [h.spans_of_zero h0]
    exact Nat.zero_le 2
  · rw [h.spans_of_ne_zero h0]
    exact length_ringRuns_le _ _ _

/-- The ring of the engine's own tests: 1024 bytes at `0x1000` in packets of 64, switched on, with
written and read address both 960 bytes in. -/
def wrapRing : Engine :=
  { packetLength := 64, enabled := true, startAddress := 4096, endAddress := 5120,
    writtenAddress := 5056, readAddress := 5056 }

theorem produce_writes_free_packets_wrapRing :
    wrapRing.enabled = true ∧ wrapRing.startAddress < wrapRing.endAddress ∧
      0 < wrapRing.packetLength ∧ wrapRing.size.toNat ≤ 2 ^ 31 ∧
      ∃ t e' u f, wrapRing.produce 192 = .ok (t, e') ∧ wrapRing.unreleased = .ok u ∧
        wrapRing.free = .ok f ∧ wrapRing.Writes 192 f u t e' :=
  ⟨rfl, by decide, by decide, by decide,
    (produce_writes_free_packets wrapRing 192).2 rfl (by decide) (by decide) (by decide)⟩

example : wrapRing.produce 192 = .ok (⟨192, [⟨960, 64⟩, ⟨0, 128⟩]⟩,
    { wrapRing with writtenAddress := 4224, status := .single .writeDone }) := by decide

/-- A switched-on engine whose written address was forced to the end of its buffer of 4096 bytes
at `0x1000`. -/
def endRing : Engine :=
  { packetLength := 64, enabled := true, startAddress := 4096, endAddress := 8192,
    writtenAddress := 8192, readAddress := 4096 }

/-- A production of less than a packet leaves the written address at the end of the buffer,
although the engine meets every condition of `produce_writes_free_packets`; it does not set the
address to the start plus the written offset, which is the start. -/
theorem produce_nothing_keeps_written_address :
    endRing.enabled = true ∧ endRing.startAddress < endRing.endAddress ∧
      0 < endRing.packetLength ∧ endRing.size.toNat ≤ 2 ^ 31 ∧
      ∃ t e', endRing.produce 32 = .ok (t, e') ∧ t.amount = 0 ∧ e'.writtenAddress = 8192 ∧
        e'.writtenAddress.toNat ≠ endRing.startAddress.toNat +
          ((endRing.offsetOf endRing.writtenAddress).toNat + t.amount.toNat) %
            endRing.size.toNat :=
  ⟨rfl, by decide, by decide, by decide, {}, endRing, by decide, rfl, rfl, by decide⟩

end Engine

end PacketRing
