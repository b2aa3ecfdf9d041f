import PacketRing.Reader.Basic
import PacketRing.Bench.Session

/-!
# Which buffers a configuration accepts

A configuration lists five requirements on a buffer, in a fixed order, each with the fault that
reports its failure: a positive packet length, a nonempty buffer, a size and a bus address that
are multiples of the packet length, and an end inside the 32-bit address space. `FirstFailure`
names the fault of the first requirement that fails.

Main statement: `new?_eq_ok_iff_accepts`. `Config.check` succeeds exactly on the accepted
buffers and otherwise reports the first failing requirement; the end address is the sum of bus
address and size exactly when that sum is an address; a reader is built, with its end address
and with every cursor, total and the epoch at zero, exactly when the check succeeds, and
otherwise fails with the check's fault; and a session whose backend builds hands that fault to
its policy once (`Session.start_of_check_error`): refused with it under `record`, aborted with it
as the one fault raised under `abort`.
-/

namespace PacketRing

/-- The requirements on a buffer in the order they are tested, each with its fault. -/
def Config.requirements (c : Config) (b : Buffer) : List (Prop × Fault) :=
  [(0 < c.packetLength, .zeroPacketLength),
   (0 < b.size, .emptyBuffer),
   (c.packetLength ∣ b.size, .sizeUnaligned b.size c.packetLength),
   (c.packetLength ∣ b.busAddress.toNat, .addressUnaligned b.busAddress c.packetLength),
   (b.busAddress.toNat + b.size ≤ wordMax, .addressOverflow b.busAddress.toNat b.size)]

/-- `f` is the fault of the first requirement of the list that fails. -/
inductive FirstFailure : List (Prop × Fault) → Fault → Prop
  | here {p : Prop} {f : Fault} {rest : List (Prop × Fault)} :
      ¬p → FirstFailure ((p, f) :: rest) f
  | next {p : Prop} {f g : Fault} {rest : List (Prop × Fault)} :
      p → FirstFailure rest g → FirstFailure ((p, f) :: rest) g

theorem firstFailure_cons_iff {p : Prop} {f g : Fault} {rest : List (Prop × Fault)} :
    FirstFailure ((p, f) :: rest) g ↔ (¬p ∧ g = f) ∨ (p ∧ FirstFailure rest g) := by
  constructor
  · intro h
    cases h with
    | here hp => exact Or.inl ⟨hp, rfl⟩
    | next hp hr => exact Or.inr ⟨hp, hr⟩
  · rintro (⟨hp, rfl⟩ | ⟨hp, hr⟩)
    · exact .here hp
    · exact .next hp hr

theorem not_firstFailure_nil {g : Fault} : ¬FirstFailure [] g := nofun

theorem check_eq_error_iff {c : Config} {b : Buffer} {f : Fault} :
    c.check b = .error f ↔ FirstFailure (c.requirements b) f := by
  simp only [Config.requirements, firstFailure_cons_iff, Nat.dvd_iff_mod_eq_zero]
  unfold Config.check
  by_cases h1 : c.packetLength = 0
  · rw [if_pos h1]
    simp [h1, eq_comm]
  rw [if_neg h1]
  have p1 : 0 < c.packetLength := Nat.pos_of_ne_zero h1
  by_cases h2 : b.size = 0
  · rw [if_pos h2]
    simp [p1, h2, eq_comm]
  rw [if_neg h2]
  have p2 : 0 < b.size := Nat.pos_of_ne_zero h2
  by_cases h3 : b.size % c.packetLength ≠ 0
  · rw [if_pos h3]
    simp [p1, p2, h3, eq_comm]
  rw [if_neg h3]
  have e3 : b.size % c.packetLength = 0 := Classical.not_not.mp h3
  by_cases h4 : b.busAddress.toNat % c.packetLength ≠ 0
  · rw [if_pos h4]
    simp [p1, p2, e3, h4, eq_comm]
  rw [if_neg h4]
  have e4 : b.busAddress.toNat % c.packetLength = 0 := Classical.not_not.mp h4
  unfold Buffer.endAddress
  by_cases h5 : b.busAddress.toNat + b.size ≤ wordMax
  · rw [if_pos h5]
    simp [p1, p2, e3, e4, h5, Except.map, not_firstFailure_nil]
  · rw [if_neg h5]
    simp [p1, p2, e3, e4, h5, Except.map, eq_comm]

theorem new?_eq_error_iff {b : Buffer} {c : Config} {f : Fault} :
    Reader.new? b c = .error f ↔ c.check b = .error f := by
  unfold Reader.new?
  cases hc : c.check b with
  | error g => simp [bind, Except.bind]
  | ok u =>
    have hok : c.check b = .ok () := hc
    have hacc := Config.check_eq_ok.mp hok
    have he : b.endAddress = .ok (b.busAddress + b.size.toUInt32) := by
      unfold Buffer.endAddress
      rw [if_pos hacc.end_le]
    simp [bind, Except.bind, he, pure, Except.pure]

theorem new?_eq_ok_iff {b : Buffer} {c : Config} {r : Reader} :
    Reader.new? b c = .ok r ↔ c.Accepts b ∧ r.config = c ∧ r.buffer = b ∧
      r.endAddress.toNat = b.busAddress.toNat + b.size ∧ r.enabled = false ∧
      r.outstanding = 0 ∧ r.done = 0 ∧ r.received = 0 ∧ r.released = 0 ∧ r.epoch = 0 := by
  unfold Reader.new?
  cases hc : c.check b with
  | error g =>
    simp only [bind, Except.bind, reduceCtorEq, false_iff, not_and]
    intro hacc
    have := Config.check_eq_ok.mpr hacc
    rw [hc] at this
    cases this
  | ok u =>
    have hacc := Config.check_eq_ok.mp hc
    have he : b.endAddress = .ok (b.busAddress + b.size.toUInt32) := by
      unfold Buffer.endAddress
      rw [if_pos hacc.end_le]
    have hsum := (Buffer.endAddress_eq_ok.mp he).2
    simp only [bind, Except.bind, he, pure, Except.pure, Except.ok.injEq]
    constructor
    · rintro rfl
      exact ⟨hacc, rfl, rfl, hsum, rfl, rfl, rfl, rfl, rfl, rfl⟩
    · rintro ⟨-, h1, h2, h3, h4, h5, h6, h7, h8, h9⟩
      have h3' : r.endAddress = b.busAddress + b.size.toUInt32 :=
        UInt32.toNat_inj.mp (h3.trans hsum.symm)
      cases r
      simp_all

/-- The engine a session builds when no packet length is given writes packets of a positive
length, so only an explicit length of zero keeps it from being built. -/
theorem Setup.enginePacketLength_ne_zero {c : Config} {n : Option UInt32} (h : n ≠ some 0) :
    Setup.enginePacketLength c n ≠ 0 := by
  cases n with
  | some n => exact fun h0 => h (congrArg some h0)
  | none =>
    unfold Setup.enginePacketLength
    by_cases hpl : 0 < c.packetLength ∧ c.packetLength ≤ wordMax
    · -- a positive length below `2 ^ 32` keeps its value as a word
      rw [if_pos hpl]
      intro h0
      have := congrArg UInt32.toNat h0
      simp [wordMax] at this hpl
      omega
    · rw [if_neg hpl]
      decide

/-- A session whose backend builds and whose configuration refuses the buffer opens with that
refusal: under `record` it reports the fault, under `abort` it aborts on it with the fault as the
one raised. -/
theorem Session.start_of_check_error {u : Setup} {f : Fault} (hb : u.backend ≠ .engine (some 0))
    (hf : u.config.check ⟨0, u.busAddress, u.size⟩ = .error f) :
    (u.policy = .record → Session.start u = .refused f) ∧
      (u.policy = .abort → Session.start u = .aborted (.assertion f) [f]) := by
  have hr : Reader.new? ⟨0, u.busAddress, u.size⟩ u.config = .error f := new?_eq_error_iff.mpr hf
  unfold Session.start
  cases hbk : u.backend with
  | engine n =>
    have hn : Setup.enginePacketLength u.config n ≠ 0 :=
      Setup.enginePacketLength_ne_zero fun h => hb (by rw [hbk, h])
    exact ⟨fun hp => by simp only [Engine.new?, hn, if_false, Except.map, hr, hp],
      fun hp => by simp only [Engine.new?, hn, if_false, Except.map, hr, hp]⟩
  | block b => exact ⟨fun hp => by simp only [hr, hp], fun hp => by simp only [hr, hp]⟩

/-- A configuration accepts exactly the buffers that meet its requirements and otherwise reports
the first that fails; a reader is built exactly over an accepted buffer, starting at rest, and
otherwise fails with the same fault, which a session whose backend builds hands to its policy
exactly once. -/
theorem new?_eq_ok_iff_accepts (c : Config) (b : Buffer) :
    (c.check b = .ok () ↔ c.Accepts b) ∧
    (∀ f, c.check b = .error f ↔ FirstFailure (c.requirements b) f) ∧
    (∀ e, b.endAddress = .ok e ↔
      b.busAddress.toNat + b.size ≤ wordMax ∧ e.toNat = b.busAddress.toNat + b.size) ∧
    (∀ r, Reader.new? b c = .ok r ↔ c.Accepts b ∧ r.config = c ∧ r.buffer = b ∧
      r.endAddress.toNat = b.busAddress.toNat + b.size ∧ r.enabled = false ∧
      r.outstanding = 0 ∧ r.done = 0 ∧ r.received = 0 ∧ r.released = 0 ∧ r.epoch = 0) ∧
    (∀ f, Reader.new? b c = .error f ↔ c.check b = .error f) ∧
    (∀ (u : Setup) (f : Fault), u.backend ≠ .engine (some 0) →
      u.config.check ⟨0, u.busAddress, u.size⟩ = .error f →
      (u.policy = .record → Session.start u = .refused f) ∧
        (u.policy = .abort → Session.start u = .aborted (.assertion f) [f])) :=
  ⟨Config.check_eq_ok, fun _ => check_eq_error_iff, fun _ => Buffer.endAddress_eq_ok,
    fun _ => new?_eq_ok_iff, fun _ => new?_eq_error_iff,
    fun _ _ hb hf => Session.start_of_check_error hb hf⟩

end PacketRing
