import PacketRing.Proofs.Receive
import PacketRing.Proofs.Stream

/-!
# Draining the available bytes

A caller drains a reader by asking again and again for between one packet and `most` bytes, until
a receive comes back empty. While no engine writes in between, the registers hold still: the
status shows no error and the written address decodes to one offset `w`. Each receive then hands
out the least of the bytes still available, `most`, and the room before the end of the buffer, so
the available count falls by a positive amount at every step and the loop stops once it is zero.

* `SteadyRegisters a S` — backend states `S` whose status reads without error flags and whose
  written address reads `a`, and which stay in `S` under the status poll and the read of the
  written address.
* `Drains least most r s resps r' s'` — the loop, started with reader `r` over backend state `s`,
  collects the nonempty responses `resps` and ends with `r'` over `s'`.
* `Response.Consecutive size start resps` — the responses follow one another from `start`, each
  beginning where the one before ended, modulo the size.
* `Draining a w pl r` — what a reader keeps from step to step of the loop.

One receive of the loop is described once, by `Draining.receive_empty` and
`Draining.receive_nonempty`; `Draining.drains` shows that the loop ends, by induction on the bytes
available, and the facts about its responses follow by induction over the loop. The main
statement is `drain_covers_available`.
-/

namespace PacketRing

/-- Responses that follow one another around a ring of `size` bytes from offset `start`: each
begins where the one before it ended, modulo the size. -/
def Response.Consecutive (size : Nat) : Nat → List Response → Prop
  | _, [] => True
  | start, p :: ps => p.offset = start ∧ Response.Consecutive size ((start + p.numBytes) % size) ps

namespace Reader

variable {β : Type} [Registers β]

/-- Backend states whose registers hold still while the reader drains: the status reads without
error flags and the written address reads `a`, also after the status poll and after the read of
the written address. -/
structure SteadyRegisters (a : UInt32) (S : β → Prop) : Prop where
  no_errors : ∀ s, S s → (Registers.status s).1.hasErrors = false
  written_eq : ∀ s, S s → (Registers.written s).1 = a
  poll_mem : ∀ s, S s → S (afterPoll s)
  written_mem : ∀ s, S s → S (Registers.written s).2

/-- The loop that receives between `least` and `most` bytes until a receive comes back empty: from
reader `r` over backend state `s` it collects the nonempty responses `resps`, in order, and ends
with reader `r'` over backend state `s'`. -/
inductive Drains (least most : Nat) : Reader → β → List Response → Reader → β → Prop
  | stop {r : Reader} {s : β} :
      ((r.receiveData least most).run s).1.1.1.isEmpty = true →
      Drains least most r s [] ((r.receiveData least most).run s).1.1.2
        ((r.receiveData least most).run s).2
  | next {r : Reader} {s : β} {resps : List Response} {r' : Reader} {s' : β} :
      ((r.receiveData least most).run s).1.1.1.isEmpty = false →
      Drains least most ((r.receiveData least most).run s).1.1.2
        ((r.receiveData least most).run s).2 resps r' s' →
      Drains least most r s (((r.receiveData least most).run s).1.1.1 :: resps) r' s'

/-- What a reader keeps while it drains towards the offset `w` that the steady written address `a`
decodes to, in packets of `pl` bytes. -/
structure Draining (a : UInt32) (w pl : Nat) (r : Reader) : Prop where
  wellFormed : r.WellFormed
  packetLength_eq : r.packetLength = pl
  outstanding_lt : r.outstanding < r.size
  dvd_outstanding : r.packetLength ∣ r.outstanding
  released_le : r.released ≤ r.received
  decode : r.offsetOfAddress a = .ok w

section Step

variable {a : UInt32} {w pl most : Nat} {r : Reader}

/-- The written offset lies the bytes available ahead of the outstanding cursor. -/
theorem Draining.written_eq (hd : Draining a w pl r) :
    w = (r.outstanding + r.availableFrom w) % r.size := by
  have hw := (offsetOfAddress_eq_ok hd.wellFormed hd.decode).1
  have hout := hd.outstanding_lt
  unfold availableFrom
  -- the written offset is ahead of the cursor, or behind it and reached around the end
  by_cases h : r.outstanding ≤ w
  · have havail : (w + r.size - r.outstanding) % r.size = w - r.outstanding := by
      rw [show w + r.size - r.outstanding = w - r.outstanding + r.size by omega,
        Nat.add_mod_right, Nat.mod_eq_of_lt (by omega)]
    rw [havail, show r.outstanding + (w - r.outstanding) = w by omega, Nat.mod_eq_of_lt hw]
  · have havail : (w + r.size - r.outstanding) % r.size = w + r.size - r.outstanding :=
      Nat.mod_eq_of_lt (by omega)
    rw [havail, show r.outstanding + (w + r.size - r.outstanding) = w + r.size by omega,
      Nat.add_mod_right, Nat.mod_eq_of_lt hw]

/-- Handing out `n` whole packets keeps what the loop needs. -/
theorem Draining.handOut (hd : Draining a w pl r) {n : Nat} (hn : r.packetLength ∣ n) :
    Draining a w pl
      { r with outstanding := (r.outstanding + n) % r.size, received := r.received + n } where
  wellFormed := ⟨hd.wellFormed.accepts, hd.wellFormed.endAddress_toNat⟩
  packetLength_eq := hd.packetLength_eq
  outstanding_lt := Nat.mod_lt _ hd.wellFormed.size_pos
  dvd_outstanding :=
    (Nat.dvd_mod_iff hd.wellFormed.packetLength_dvd_size).mpr (Nat.dvd_add hd.dvd_outstanding hn)
  released_le := Nat.le_add_right_of_le hd.released_le
  decode := hd.decode

/-- Handing out `n` of the bytes available leaves `n` fewer available. -/
theorem Draining.availableFrom_handOut (hd : Draining a w pl r) {n : Nat}
    (hn : n ≤ r.availableFrom w) :
    ({ r with outstanding := (r.outstanding + n) % r.size, received := r.received + n } :
      Reader).availableFrom w = r.availableFrom w - n := by
  have hlt := availableFrom_lt hd.wellFormed w
  have hsum : r.outstanding + n + (r.availableFrom w - n) = r.outstanding + r.availableFrom w := by
    omega
  -- the written offset is the new cursor plus the bytes still available
  have key := @ring_distance r.size (r.outstanding + n) (r.availableFrom w - n) (by omega)
  rw [hsum, ← hd.written_eq] at key
  exact key

/-- A receive of the loop reports no fault, gives the `grant` at `w`, and keeps the backend
steady. -/
theorem Draining.receiveData_eq {S : β → Prop} (hd : Draining a w pl r)
    (hS : SteadyRegisters a S) {s : β} (hs : S s) (hmost : pl ∣ most) (hle : pl ≤ most) :
    (r.receiveData pl most).run s =
      ((r.grant pl most w, []), (Registers.written (afterPoll s)).2) := by
  have hpoll := hS.poll_mem s hs
  have hw : r.offsetOfAddress (Registers.written (afterPoll s)).1 = .ok w := by
    rw [hS.written_eq _ hpoll]
    exact hd.decode
  rw [← hd.packetLength_eq] at hmost hle ⊢
  exact receiveData_of_decode (hS.no_errors s hs) (Nat.dvd_refl _) hmost hle hw

/-- With bytes available, a receive of the loop hands out at least one packet. -/
theorem Draining.packetLength_le_handout (hd : Draining a w pl r) (hle : pl ≤ most)
    (hpos : 0 < r.availableFrom w) : r.packetLength ≤ r.handout most w := by
  have hr := hd.wellFormed
  have hwdvd := (offsetOfAddress_eq_ok hr hd.decode).2
  have havail : r.packetLength ≤ r.availableFrom w :=
    Nat.le_of_dvd hpos (hr.dvd_availableFrom hd.dvd_outstanding hwdvd)
  have hroom : r.packetLength ≤ r.size - r.outstanding :=
    Nat.le_of_dvd (by have := hd.outstanding_lt; omega)
      (Nat.dvd_sub hr.packetLength_dvd_size hd.dvd_outstanding)
  rw [← hd.packetLength_eq] at hle
  exact le_min (le_min havail hle) hroom

variable {S : β → Prop} {s : β} (hS : SteadyRegisters a S) (hmost : pl ∣ most) (hle : pl ≤ most)
include hS hmost hle

/-- A receive of the loop that comes back empty found nothing available and kept the reader. -/
theorem Draining.receive_empty (hd : Draining a w pl r) (hs : S s)
    (hemp : ((r.receiveData pl most).run s).1.1.1.isEmpty = true) :
    r.availableFrom w = 0 ∧ ((r.receiveData pl most).run s).1.1.2 = r ∧
      S ((r.receiveData pl most).run s).2 := by
  have hrun := hd.receiveData_eq hS hs hmost hle
  rw [hrun] at hemp ⊢
  refine ⟨?_, ?_, hS.written_mem _ (hS.poll_mem s hs)⟩
  · -- with bytes available the count is at least a packet, so the response is not empty
    by_contra hne
    have hlen := hd.packetLength_le_handout hle (Nat.pos_of_ne_zero hne)
    have hpl := hd.wellFormed.packetLength_pos
    have hge : pl ≤ r.availableFrom w := by
      rw [← hd.packetLength_eq]
      exact Nat.le_trans hlen handout_le_available
    rw [grant_of_le hge, if_neg (by omega)] at hemp
    simp [Response.isEmpty] at hemp
    omega
  · rcases grant_cases r pl most w with h | ⟨hn, h⟩
    · rw [h]
    · rw [h] at hemp
      simp [Response.isEmpty, hn] at hemp

/-- A receive of the loop that comes back with bytes hands out the `handout`, at least a packet
and at most the bytes available, from the outstanding cursor, and leaves a reader that drains on. -/
theorem Draining.receive_nonempty (hd : Draining a w pl r) (hs : S s)
    (hne : ((r.receiveData pl most).run s).1.1.1.isEmpty = false) :
    0 < r.handout most w ∧ r.handout most w ≤ r.availableFrom w ∧
      ((r.receiveData pl most).run s).1.1.1 =
        { numBytes := r.handout most w, region := some r.buffer.region, offset := r.outstanding,
          position := r.received, epoch := r.epoch } ∧
      ((r.receiveData pl most).run s).1.1.2 =
        { r with outstanding := (r.outstanding + r.handout most w) % r.size,
                 received := r.received + r.handout most w } ∧
      Draining a w pl ((r.receiveData pl most).run s).1.1.2 ∧
      S ((r.receiveData pl most).run s).2 := by
  have hrun := hd.receiveData_eq hS hs hmost hle
  have hdvd : r.packetLength ∣ r.handout most w :=
    hd.wellFormed.dvd_handout hd.dvd_outstanding (hd.packetLength_eq ▸ hmost)
      (offsetOfAddress_eq_ok hd.wellFormed hd.decode).2
  rw [hrun] at hne ⊢
  rcases grant_cases r pl most w with h | ⟨hn, h⟩
  · rw [h] at hne
    cases hne
  rw [h]
  exact ⟨Nat.pos_of_ne_zero hn, handout_le_available, rfl, rfl, hd.handOut hdvd,
    hS.written_mem _ (hS.poll_mem s hs)⟩

/-- The reader after a receive of the loop that came back with bytes: the same buffer, the cursor
and the received total moved on by the count, `count` fewer bytes available, nothing released. -/
theorem Draining.receive_nonempty_next (hd : Draining a w pl r) (hs : S s)
    (hne : ((r.receiveData pl most).run s).1.1.1.isEmpty = false) :
    (((r.receiveData pl most).run s).1.1.2).size = r.size ∧
      (((r.receiveData pl most).run s).1.1.2).outstanding =
        (r.outstanding + r.handout most w) % r.size ∧
      (((r.receiveData pl most).run s).1.1.2).availableFrom w =
        r.availableFrom w - r.handout most w ∧
      (((r.receiveData pl most).run s).1.1.2).received = r.received + r.handout most w ∧
      (((r.receiveData pl most).run s).1.1.2).released = r.released := by
  obtain ⟨-, hlen, -, hr1, -⟩ := hd.receive_nonempty hS hmost hle hs hne
  rw [hr1]
  exact ⟨rfl, rfl, hd.availableFrom_handOut hlen, rfl, rfl⟩

end Step

/-! ### The loop -/

section Loop

variable {a : UInt32} {w pl most : Nat} {S : β → Prop} (hS : SteadyRegisters a S)
  (hmost : pl ∣ most) (hle : pl ≤ most)
include hS hmost hle

/-- **The loop ends.** Each receive with bytes available hands out at least a packet of them, so
induction on the bytes available reaches an empty receive. -/
theorem Draining.drains {r : Reader} {s : β} (hd : Draining a w pl r) (hs : S s) :
    ∃ resps r' s', Drains pl most r s resps r' s' := by
  induction h : r.availableFrom w using Nat.strong_induction_on generalizing r s with
  | _ k ih =>
    cases hemp : ((r.receiveData pl most).run s).1.1.1.isEmpty with
    | true => exact ⟨[], _, _, .stop hemp⟩
    | false =>
      obtain ⟨hpos, hlen, -, hr1, hd1, hs1⟩ := hd.receive_nonempty hS hmost hle hs hemp
      have hless : (((r.receiveData pl most).run s).1.1.2).availableFrom w < k := by
        rw [hr1, hd.availableFrom_handOut hlen]
        omega
      obtain ⟨resps, r', s', hrest⟩ := ih _ hless hd1 hs1 rfl
      exact ⟨_, r', s', .next hemp hrest⟩

section Runs

variable {r r' : Reader} {s s' : β} {resps : List Response}

/-- A loop started with nothing available stops at once. -/
theorem Drains.eq_nil (h : Drains pl most r s resps r' s') (hd : Draining a w pl r) (hs : S s)
    (h0 : r.availableFrom w = 0) : resps = [] := by
  cases h with
  | stop _ => rfl
  | next hne _ =>
    obtain ⟨hpos, hlen, -⟩ := hd.receive_nonempty hS hmost hle hs hne
    omega

/-- The loop ends where nothing is available, with every byte that was available received and
nothing released. -/
theorem Drains.final (h : Drains pl most r s resps r' s') :
    Draining a w pl r → S s →
      Draining a w pl r' ∧ S s' ∧ r'.availableFrom w = 0 ∧
        r'.received = r.received + r.availableFrom w ∧ r'.released = r.released := by
  induction h with
  | stop hemp =>
    intro hd hs
    obtain ⟨h0, hr', hs'⟩ := hd.receive_empty hS hmost hle hs hemp
    rw [hr']
    exact ⟨hd, hs', h0, by omega, rfl⟩
  | next hne _ ih =>
    intro hd hs
    obtain ⟨-, hlen, -, -, hd1, hs1⟩ := hd.receive_nonempty hS hmost hle hs hne
    obtain ⟨-, -, havail, hrc1, hrl1⟩ := hd.receive_nonempty_next hS hmost hle hs hne
    obtain ⟨hd', hs', h0, hrc, hrl⟩ := ih hd1 hs1
    rw [havail, hrc1] at hrc
    rw [hrl1] at hrl
    exact ⟨hd', hs', h0, by omega, hrl⟩

/-- The loop's responses follow one another from the outstanding cursor, and their bytes add up to
the bytes available. -/
theorem Drains.tiles (h : Drains pl most r s resps r' s') :
    Draining a w pl r → S s →
      Response.Consecutive r.size r.outstanding resps ∧
        (resps.map Response.numBytes).sum = r.availableFrom w := by
  induction h with
  | stop hemp =>
    intro hd hs
    obtain ⟨h0, -, -⟩ := hd.receive_empty hS hmost hle hs hemp
    exact ⟨trivial, h0.symm⟩
  | next hne _ ih =>
    intro hd hs
    obtain ⟨-, hlen, hresp, -, hd1, hs1⟩ := hd.receive_nonempty hS hmost hle hs hne
    obtain ⟨hsize, hout1, havail, -⟩ := hd.receive_nonempty_next hS hmost hle hs hne
    obtain ⟨hcons, hsum⟩ := ih hd1 hs1
    rw [hsize, hout1] at hcons
    rw [havail] at hsum
    rw [hresp]
    refine ⟨⟨rfl, hcons⟩, ?_⟩
    rw [List.map_cons, List.sum_cons, hsum]
    dsimp only
    omega

/-- At most one response of the loop ends at the end of the buffer, and one does only when the
bytes available reach it: the responses cover less than a buffer from the outstanding cursor. -/
theorem Drains.countP_end_le (h : Drains pl most r s resps r' s') :
    Draining a w pl r → S s →
      resps.countP (fun p => p.offset + p.numBytes = r.size) ≤
        if r.size ≤ r.outstanding + r.availableFrom w then 1 else 0 := by
  induction h with
  | stop hemp =>
    intro _ _
    exact Nat.zero_le _
  | @next r s rest r' s' hne _ ih =>
    intro hd hs
    obtain ⟨hpos, hlen, hresp, -, hd1, hs1⟩ := hd.receive_nonempty hS hmost hle hs hne
    obtain ⟨hsize, hout1, havail, -⟩ := hd.receive_nonempty_next hS hmost hle hs hne
    have hcount := ih hd1 hs1
    rw [hsize, hout1, havail] at hcount
    rw [hresp, List.countP_cons]
    dsimp only
    have hroom : r.outstanding + r.handout most w ≤ r.size :=
      add_handout_le_size (Nat.le_of_lt hd.outstanding_lt)
    have hlt := availableFrom_lt hd.wellFormed w
    -- the first response ends at the end exactly when the cursor wraps to the start after it
    by_cases hend : r.outstanding + r.handout most w = r.size
    · rw [hend, Nat.mod_self] at hcount
      have hrest : ¬ r.size ≤ 0 + (r.availableFrom w - r.handout most w) := by omega
      rw [if_neg hrest] at hcount
      have hwrap : r.size ≤ r.outstanding + r.availableFrom w := by omega
      rw [if_pos hwrap, if_pos (decide_eq_true hend)]
      omega
    · rw [Nat.mod_eq_of_lt (by omega),
        show r.outstanding + r.handout most w + (r.availableFrom w - r.handout most w) =
          r.outstanding + r.availableFrom w by omega] at hcount
      rw [if_neg (by simpa using hend)]
      omega

/-- Every response of the loop but the last is cut only by `most` or by the end of the buffer:
one that stops short of both takes every byte still available, and the loop stops after it. -/
theorem Drains.full_or_at_end (h : Drains pl most r s resps r' s') :
    Draining a w pl r → S s →
      ∀ p ∈ resps.dropLast, p.numBytes = most ∨ p.offset + p.numBytes = r.size := by
  induction h with
  | stop hemp =>
    intro _ _ p hp
    simp at hp
  | @next r s rest r' s' hne hrest ih =>
    intro hd hs p hp
    obtain ⟨hpos, hlen, hresp, -, hd1, hs1⟩ := hd.receive_nonempty hS hmost hle hs hne
    obtain ⟨hsize, -, havail, -⟩ := hd.receive_nonempty_next hS hmost hle hs hne
    by_cases hnil : rest = []
    · rw [hnil] at hp
      simp at hp
    rw [List.dropLast_cons_of_ne_nil hnil, List.mem_cons] at hp
    rcases hp with rfl | hp
    · -- the loop goes on, so this response left bytes available
      have hmore : 0 < (((r.receiveData pl most).run s).1.1.2).availableFrom w := by
        rcases Nat.eq_zero_or_pos ((((r.receiveData pl most).run s).1.1.2).availableFrom w) with
          h0 | h0
        · exact absurd (hrest.eq_nil hS hmost hle hd1 hs1 h0) hnil
        · exact h0
      rw [havail] at hmore
      have hn : r.handout most w = min (min (r.availableFrom w) most) (r.size - r.outstanding) :=
        rfl
      have hout := hd.outstanding_lt
      rw [hresp]
      dsimp only
      omega
    · have := ih hd1 hs1 p hp
      rwa [hsize] at this

/-- The loop makes at most `⌈avail / most⌉` receives with bytes, and one more when the bytes
available reach the end of the buffer. -/
theorem Drains.length_le (h : Drains pl most r s resps r' s') :
    Draining a w pl r → S s →
      resps.length ≤ (r.availableFrom w + most - 1) / most +
        if r.size ≤ r.outstanding + r.availableFrom w then 1 else 0 := by
  induction h with
  | stop hemp =>
    intro _ _
    exact Nat.zero_le _
  | @next r s rest r' s' hne hrest ih =>
    intro hd hs
    obtain ⟨hpos, hlen, -, -, hd1, hs1⟩ := hd.receive_nonempty hS hmost hle hs hne
    obtain ⟨hsize, hout1, havail, -⟩ := hd.receive_nonempty_next hS hmost hle hs hne
    have hlen' := ih hd1 hs1
    rw [hsize, hout1, havail] at hlen'
    have hmpos : 0 < most :=
      Nat.lt_of_lt_of_le (hd.packetLength_eq ▸ hd.wellFormed.packetLength_pos) hle
    have hout := hd.outstanding_lt
    have hlt := availableFrom_lt hd.wellFormed w
    have hn : r.handout most w = min (min (r.availableFrom w) most) (r.size - r.outstanding) := rfl
    have hceil : 1 ≤ (r.availableFrom w + most - 1) / most :=
      (Nat.le_div_iff_mul_le hmpos).mpr (by omega)
    rw [List.length_cons]
    -- three ways the first response can stop: it takes all, it reaches the end, or it is full
    by_cases hall : r.handout most w = r.availableFrom w
    · have hnil : rest = [] := by
        apply hrest.eq_nil hS hmost hle hd1 hs1
        rw [havail, hall, Nat.sub_self]
      rw [hnil, List.length_nil]
      omega
    by_cases hend : r.outstanding + r.handout most w = r.size
    · rw [hend, Nat.mod_self, if_neg (by omega)] at hlen'
      have hmono : (r.availableFrom w - r.handout most w + most - 1) / most ≤
          (r.availableFrom w + most - 1) / most := Nat.div_le_div_right (by omega)
      rw [if_pos (by omega)]
      omega
    · have hfull : r.handout most w = most := by omega
      rw [Nat.mod_eq_of_lt (by omega),
        show r.outstanding + r.handout most w + (r.availableFrom w - r.handout most w) =
          r.outstanding + r.availableFrom w by omega] at hlen'
      have hstep : (r.availableFrom w - most + most - 1) / most + 1 =
          (r.availableFrom w + most - 1) / most := by
        rw [← Nat.add_div_right _ hmpos]
        congr 1
        omega
      rw [hfull] at hlen'
      omega

end Runs

end Loop

/-- **Draining covers the available bytes, with at most one split at the end.** For a reader whose
outstanding cursor is a packet-aligned offset inside the buffer, with no more released than
received, and registers that hold still with a status without error flags and a written address
`a` that decodes to `w`: the loop that receives between one packet and `most` bytes, `most` a
whole number of packets, until a receive comes back empty, ends. Its responses follow one another
from the outstanding cursor, each beginning where the one before ended modulo the size, and their
bytes add up to the bytes available; at most one of them ends at the end of the buffer, every one
but the last has `most` bytes or ends there, so there are at most `⌈avail / most⌉ + 1` of them.
Afterwards the cursor is at `w`, the availability query reports nothing, and the outstanding bytes
have grown by exactly the bytes that were available. -/
theorem drain_covers_available {r : Reader} (hr : r.WellFormed) (hout : r.outstanding < r.size)
    (hdvd : r.packetLength ∣ r.outstanding) (hrel : r.released ≤ r.received) {most : Nat}
    (hmost : r.packetLength ∣ most) (hle : r.packetLength ≤ most) {a : UInt32} {w : Nat}
    (hw : r.offsetOfAddress a = .ok w) {S : β → Prop} (hS : SteadyRegisters a S) {s : β}
    (hs : S s) :
    (∃ resps r' s', Drains r.packetLength most r s resps r' s') ∧
    ∀ resps r' s', Drains r.packetLength most r s resps r' s' →
      Response.Consecutive r.size r.outstanding resps ∧
      (resps.map Response.numBytes).sum = r.availableFrom w ∧
      resps.countP (fun p => p.offset + p.numBytes = r.size) ≤ 1 ∧
      (∀ p ∈ resps.dropLast, p.numBytes = most ∨ p.offset + p.numBytes = r.size) ∧
      resps.length ≤ (r.availableFrom w + most - 1) / most + 1 ∧
      r'.outstanding = w ∧ (r'.numAvailable.run s').1 = (0, []) ∧
      r'.outstandingBytes = r.outstandingBytes + r.availableFrom w := by
  have hd : Draining a w r.packetLength r := ⟨hr, rfl, hout, hdvd, hrel, hw⟩
  refine ⟨hd.drains hS hmost hle hs, fun resps r' s' h => ?_⟩
  obtain ⟨hcons, hsum⟩ := h.tiles hS hmost hle hd hs
  obtain ⟨hd', hs', h0, hrc, hrl⟩ := h.final hS hmost hle hd hs
  have hcount := h.countP_end_le hS hmost hle hd hs
  have hlen := h.length_le hS hmost hle hd hs
  -- nothing is left between the cursor and the written offset, so the two are one
  have hend : r'.outstanding = w := by
    have := hd'.written_eq
    rw [h0, Nat.add_zero, Nat.mod_eq_of_lt hd'.outstanding_lt] at this
    exact this.symm
  have hquery : (r'.numAvailable.run s').1 = (0, []) := by
    have hw' : r'.offsetOfAddress (Registers.written s').1 = .ok w := by
      rw [hS.written_eq s' hs']
      exact hd'.decode
    rw [numAvailable_of_decode hw', h0]
  refine ⟨hcons, hsum, ?_, h.full_or_at_end hS hmost hle hd hs, ?_, hend, hquery, ?_⟩
  · split at hcount <;> omega
  · split at hlen <;> omega
  · unfold outstandingBytes
    omega

/-- `sampleBlock256` holds still under the reader's status poll and written-address read. -/
theorem steadyRegisters_sampleBlock256 :
    SteadyRegisters (4352 : UInt32) (fun b : Block => b = sampleBlock256) where
  no_errors := by
    rintro s rfl
    decide
  written_eq := by
    rintro s rfl
    decide
  poll_mem := by
    rintro s rfl
    decide
  written_mem := by
    rintro s rfl
    rfl

theorem drain_covers_available_sampleBlock256 :
    sampleReader.WellFormed ∧ sampleReader.outstanding < sampleReader.size ∧
      sampleReader.packetLength ∣ sampleReader.outstanding ∧
      sampleReader.released ≤ sampleReader.received ∧
      sampleReader.packetLength ∣ 128 ∧ sampleReader.packetLength ≤ 128 ∧
      sampleReader.offsetOfAddress 4352 = .ok 256 ∧
      SteadyRegisters (4352 : UInt32) (fun b : Block => b = sampleBlock256) ∧
      sampleBlock256 = sampleBlock256 ∧
    (∃ resps r' s', Drains sampleReader.packetLength 128 sampleReader sampleBlock256 resps r' s') ∧
    ∀ resps r' s', Drains sampleReader.packetLength 128 sampleReader sampleBlock256 resps r' s' →
      Response.Consecutive sampleReader.size sampleReader.outstanding resps ∧
      (resps.map Response.numBytes).sum = sampleReader.availableFrom 256 ∧
      resps.countP (fun p => p.offset + p.numBytes = sampleReader.size) ≤ 1 ∧
      (∀ p ∈ resps.dropLast, p.numBytes = 128 ∨ p.offset + p.numBytes = sampleReader.size) ∧
      resps.length ≤ (sampleReader.availableFrom 256 + 128 - 1) / 128 + 1 ∧
      r'.outstanding = 256 ∧ (r'.numAvailable.run s').1 = (0, []) ∧
      r'.outstandingBytes = sampleReader.outstandingBytes + sampleReader.availableFrom 256 := by
  have hr : sampleReader.WellFormed := wellFormed_of_new? new?_sampleReader
  have hw : sampleReader.offsetOfAddress 4352 = .ok 256 := by
    rw [offsetOfAddress_of_mem (by decide) (by decide) (by decide)]
    exact congrArg Except.ok (by decide)
  have hS := steadyRegisters_sampleBlock256
  exact ⟨hr, by decide, by decide, by decide, by decide, by decide, hw, hS, rfl,
    drain_covers_available hr (by decide) (by decide) (by decide) (by decide) (by decide) hw hS
      rfl⟩

end Reader

end PacketRing
