import Mathlib
import PacketRing.Proofs.Cursors
import PacketRing.Registers.Block

/-!
# When a response can still be read

A response records where its bytes lie, their position in the stream received since the last
clear, and the reader's epoch when it was handed out. Reading it back (`Reader.data`) refuses once
the epoch has moved or the released total has passed its position. The epoch is a 32-bit word
that every successful clear advances, so it comes back to the same value after `2 ^ 32` clears,
and a response handed out that many clears ago passes the epoch test again.

* `Reader.Issued β r resp b c` — `resp` was handed out by a receive of a reader that public
  operations reached from `Reader.new?`, in the epoch of base `b`, and the reader `r` has since
  run any public operations, `c` of them successful clears.
* `Reader.Handed r resp b c` — what such a response keeps: it lies in the reader's buffer, at
  the base plus its position, and the reader's epoch is the response's plus `c`.

The main statement, `Issued.data_exact`: an empty response reads back as the empty run; any other
lies at `b + position` modulo the size, inside the buffer, and reads back exactly when the number
of clears since it was handed out is a multiple of `2 ^ 32` and no byte of it has been released.
`readable_after_wrapped_clears` shows that the multiple need not be zero: after `2 ^ 32`
successful clears a response reads back again.
-/

namespace PacketRing

namespace Reader

variable {β : Type} [Registers β]

/-! ### What an operation does to the epoch -/

theorem grant_buffer (r : Reader) (least most w : Nat) :
    (r.grant least most w).2.buffer = r.buffer := by
  rcases grant_cases r least most w with h | ⟨-, h⟩ <;> rw [h]

theorem grant_epoch (r : Reader) (least most w : Nat) :
    (r.grant least most w).2.epoch = r.epoch := by
  rcases grant_cases r least most w with h | ⟨-, h⟩ <;> rw [h]

theorem perform_buffer (r : Reader) (o : ReaderOp) (s : β) :
    ((r.perform o).run s).1.1.buffer = r.buffer := by
  rcases perform_cases r o s with
    ⟨-, h | ⟨on, h⟩ | ⟨least, most, w, a, -, -, h⟩ | ⟨n, -, -, h⟩⟩ | ⟨-, w, -, h⟩ <;> rw [h]
  · exact grant_buffer r least most w
  · rfl

/-- Only a successful clear moves the epoch, and it moves it by one. -/
theorem perform_epoch (r : Reader) (o : ReaderOp) (s : β) :
    ((r.perform o).run s).1.1.epoch = r.epoch + if r.clearsAt o s then 1 else 0 := by
  rcases perform_cases r o s with
    ⟨hc, h | ⟨on, h⟩ | ⟨least, most, w, a, -, -, h⟩ | ⟨n, -, -, h⟩⟩ | ⟨hc, w, -, h⟩
  -- every operation but a successful clear leaves the epoch alone
  all_goals rw [h, hc]
  · exact (UInt32.add_zero _).symm
  · exact (UInt32.add_zero _).symm
  · rw [grant_epoch]
    exact (UInt32.add_zero _).symm
  · exact (UInt32.add_zero _).symm
  · rfl

/-! ### Responses handed out -/

variable (β) in
/-- The responses that a reader reached from `Reader.new?` handed out, with the reader `r` after
any further public operations, the base `b` of the epoch the response was handed out in, and the
number `c` of successful clears since. Every step runs on a backend state of its own. -/
inductive Issued : Reader → Response → Nat → Nat → Prop
  | receive {b : Nat} {r : Reader} (least most : Nat) (s : β) :
      Reachable β b r →
      Issued ((r.receiveData least most).run s).1.1.2 ((r.receiveData least most).run s).1.1.1 b 0
  | step {r : Reader} {resp : Response} {b c : Nat} (o : ReaderOp) (s : β) :
      Issued r resp b c →
      Issued ((r.perform o).run s).1.1 resp b (c + if r.clearsAt o s then 1 else 0)

/-- What a response with bytes keeps while the reader runs on: its bytes lie in the reader's
buffer at the base plus its position, and the reader's epoch is the response's plus the number of
clears since, in 32 bits. -/
structure Handed (r : Reader) (resp : Response) (b c : Nat) : Prop where
  region_eq : resp.region = some r.buffer.region
  numBytes_pos : 0 < resp.numBytes
  offset_eq : resp.offset = (b + resp.position) % r.size
  fits : resp.offset + resp.numBytes ≤ r.size
  epoch_eq : r.epoch = resp.epoch + c.toUInt32

section Handed

variable {r : Reader} {resp : Response} {b c : Nat}

/-- A receive by a reachable reader hands out the empty response or one that is `Handed` with no
clear since. -/
theorem handed_receive (hc : Cursors b r) (least most : Nat) (s : β) :
    ((r.receiveData least most).run s).1.1.1 = Response.empty ∨
      Handed ((r.receiveData least most).run s).1.1.2 ((r.receiveData least most).run s).1.1.1
        b 0 := by
  rw [receiveData]
  rcases hrun : (r.receive least most : RegisterM β _).run.run s with ⟨_ | v, s'⟩
  · rw [orFault_of_error hrun]
    exact .inl rfl
  rw [orFault_of_ok hrun]
  obtain ⟨-, -, -, -, w, -, rfl, -⟩ := receive_eq_ok hrun
  rcases grant_cases r least most w with h | ⟨hn, h⟩
  · rw [h]
    exact .inl rfl
  rw [h]
  -- the handout stops at the end of the buffer, so the run fits
  have hroom : r.handout most w ≤ r.size - r.outstanding := Nat.min_le_right _ _
  have hlt := hc.outstanding_lt
  refine .inr ⟨rfl, Nat.pos_of_ne_zero hn, hc.outstanding_eq, ?_, ?_⟩
  · show r.outstanding + r.handout most w ≤ r.size
    omega
  · show r.epoch = r.epoch + 0
    exact (UInt32.add_zero _).symm

/-- Every public operation keeps a response `Handed`, counting the clear if it was one. -/
theorem Handed.perform (h : Handed r resp b c) (o : ReaderOp) (s : β) :
    Handed ((r.perform o).run s).1.1 resp b (c + if r.clearsAt o s then 1 else 0) := by
  have hbuf := perform_buffer r o s
  have hsize : ((r.perform o).run s).1.1.size = r.size := by rw [size, hbuf, ← size]
  refine ⟨by rw [hbuf]; exact h.region_eq, h.numBytes_pos, by rw [hsize]; exact h.offset_eq,
    by rw [hsize]; exact h.fits, ?_⟩
  rw [perform_epoch, h.epoch_eq, UInt32.add_assoc]
  congr 1
  apply UInt32.toNat_inj.mp
  split <;> simp [UInt32.toNat_add]

/-- The epoch test passes exactly when the clears since a response are a multiple of `2 ^ 32`. -/
theorem epoch_add_eq_self_iff (e : UInt32) (c : Nat) :
    e = e + c.toUInt32 ↔ c % 2 ^ 32 = 0 := by
  rw [← UInt32.toNat_inj, UInt32.toNat_add, Nat.toUInt32_eq, UInt32.toNat_ofNat']
  have := e.toNat_lt
  omega

/-- **Reading back a handed-out response**: its run, exactly when the clears since are a multiple
of `2 ^ 32` and none of its bytes has been released; otherwise the response is stale. -/
theorem Handed.data_eq (h : Handed r resp b c) :
    r.data resp = if c % 2 ^ 32 = 0 ∧ r.released ≤ resp.position then
      .ok ⟨resp.offset, resp.numBytes⟩ else .error .stale := by
  have hfits : ¬ r.size < resp.offset + resp.numBytes := Nat.not_lt.mpr h.fits
  have hepoch : resp.epoch = r.epoch ↔ c % 2 ^ 32 = 0 := by
    rw [h.epoch_eq]
    exact epoch_add_eq_self_iff resp.epoch c
  unfold data isStale
  rw [h.region_eq]
  dsimp only
  by_cases hok : c % 2 ^ 32 = 0 ∧ r.released ≤ resp.position
  · have he : resp.epoch = r.epoch := hepoch.mpr hok.1
    have hp : ¬ resp.position < r.released := Nat.not_lt.mpr hok.2
    rw [if_pos hok]
    simp [he, hp, hfits]
  · rw [if_neg hok]
    -- a response fails the test on its epoch or on its position
    have hfail : resp.epoch ≠ r.epoch ∨ resp.position < r.released := by
      rw [Ne, hepoch]
      omega
    rcases hfail with he | hp
    · simp [he]
    · simp [hp]

end Handed

theorem Issued.handed {r : Reader} {resp : Response} {b c : Nat} (h : Issued β r resp b c) :
    resp = Response.empty ∨ Handed r resp b c := by
  induction h with
  | receive least most s hr => exact handed_receive hr.cursors least most s
  | step o s _ ih =>
    rcases ih with rfl | hh
    · exact .inl rfl
    · exact .inr (hh.perform o s)

/-- Clearing again and again over a backend whose written address decodes: each clear succeeds,
so `n` of them add `n` to the count, and after one the released total is zero. -/
theorem Issued.clears {r : Reader} {resp : Response} {b c : Nat} (h : Issued β r resp b c)
    {s : β} (hs : r.clearsAt .clear s = true) (n : Nat) :
    ∃ r', Issued β r' resp b (c + n) ∧ r'.clearsAt .clear s = true ∧
      (0 < n → r'.released = 0) := by
  induction n with
  | zero => exact ⟨r, h, hs, fun h0 => absurd h0 (Nat.lt_irrefl 0)⟩
  | succ n ih =>
    obtain ⟨r', hr', hs', -⟩ := ih
    have hstep := hr'.step .clear s
    rw [hs', if_pos rfl, Nat.add_assoc] at hstep
    rcases perform_cases r' .clear s with ⟨hc, -⟩ | ⟨-, w, -, hw⟩
    · rw [hs'] at hc
      cases hc
    -- the cleared reader decodes the written address as before, and holds no released bytes
    rw [hw] at hstep
    exact ⟨r'.clearedAt w, hstep, hs', fun _ => rfl⟩

/-- **Staleness of responses, exactly.** For a response handed out by a reader reached from
`Reader.new?`, after any further operations, `c` of them successful clears: a response without
bytes is the empty response, at offset `0` whatever the base, and reads back as the empty run; any
other lies at the base of its epoch plus its position, modulo the size, inside the buffer, and
reads back as exactly its run when `c` is a multiple of `2 ^ 32` and the released total has not
passed its position, and as stale otherwise. -/
theorem Issued.data_exact {r : Reader} {resp : Response} {b c : Nat} (h : Issued β r resp b c) :
    (resp.numBytes = 0 → resp = Response.empty ∧ r.data resp = .ok ⟨0, 0⟩) ∧
    (resp.numBytes ≠ 0 →
      resp.offset = (b + resp.position) % r.size ∧ resp.offset + resp.numBytes ≤ r.size ∧
      r.data resp = if c % 2 ^ 32 = 0 ∧ r.released ≤ resp.position then
        .ok ⟨resp.offset, resp.numBytes⟩ else .error .stale) := by
  rcases h.handed with rfl | hh
  · exact ⟨fun _ => ⟨rfl, rfl⟩, fun h0 => absurd rfl h0⟩
  · refine ⟨fun h0 => absurd h0 (Nat.pos_iff_ne_zero.mp hh.numBytes_pos), fun _ => ?_⟩
    exact ⟨hh.offset_eq, hh.fits, hh.data_eq⟩

/-- Registers with no status flag and the written address 64 bytes into `sampleReader`'s buffer. -/
def sampleBlock : Block := Block.zero.put .written 4160

/-- The 64 bytes that `sampleReader` hands out over `sampleBlock`. -/
theorem issued_sampleBlock :
    Issued Block ((sampleReader.receiveData 64 64).run sampleBlock).1.1.2
      ((sampleReader.receiveData 64 64).run sampleBlock).1.1.1 0 0 :=
  .receive 64 64 sampleBlock (.new new?_sampleReader)

theorem data_exact_sampleBlock :
    Issued Block ((sampleReader.receiveData 64 64).run sampleBlock).1.1.2
        ((sampleReader.receiveData 64 64).run sampleBlock).1.1.1 0 0 ∧
      (((sampleReader.receiveData 64 64).run sampleBlock).1.1.1.numBytes = 0 →
        ((sampleReader.receiveData 64 64).run sampleBlock).1.1.1 = Response.empty ∧
        ((sampleReader.receiveData 64 64).run sampleBlock).1.1.2.data
          ((sampleReader.receiveData 64 64).run sampleBlock).1.1.1 = .ok ⟨0, 0⟩) ∧
      (((sampleReader.receiveData 64 64).run sampleBlock).1.1.1.numBytes ≠ 0 →
        ((sampleReader.receiveData 64 64).run sampleBlock).1.1.1.offset =
            (0 + ((sampleReader.receiveData 64 64).run sampleBlock).1.1.1.position) %
              ((sampleReader.receiveData 64 64).run sampleBlock).1.1.2.size ∧
          ((sampleReader.receiveData 64 64).run sampleBlock).1.1.1.offset +
              ((sampleReader.receiveData 64 64).run sampleBlock).1.1.1.numBytes ≤
            ((sampleReader.receiveData 64 64).run sampleBlock).1.1.2.size ∧
          ((sampleReader.receiveData 64 64).run sampleBlock).1.1.2.data
              ((sampleReader.receiveData 64 64).run sampleBlock).1.1.1 =
            if 0 % 2 ^ 32 = 0 ∧ ((sampleReader.receiveData 64 64).run sampleBlock).1.1.2.released ≤
                ((sampleReader.receiveData 64 64).run sampleBlock).1.1.1.position then
              .ok ⟨((sampleReader.receiveData 64 64).run sampleBlock).1.1.1.offset,
                ((sampleReader.receiveData 64 64).run sampleBlock).1.1.1.numBytes⟩
            else .error .stale) :=
  ⟨issued_sampleBlock, Issued.data_exact issued_sampleBlock⟩

/-- **A response handed out `2 ^ 32` successful clears ago reads back again**: the epoch has
wrapped around to the response's, and the clears have set the released total back to zero. -/
theorem readable_after_wrapped_clears :
    ∃ r resp b, Issued Block r resp b (2 ^ 32) ∧ resp.numBytes ≠ 0 ∧
      r.data resp = .ok ⟨resp.offset, resp.numBytes⟩ := by
  have hs : ((sampleReader.receiveData 64 64).run sampleBlock).1.1.2.clearsAt .clear sampleBlock =
      true := by decide
  have hn : ((sampleReader.receiveData 64 64).run sampleBlock).1.1.1.numBytes = 64 := by decide
  obtain ⟨r, hr, -, hrel⟩ := issued_sampleBlock.clears hs (2 ^ 32)
  rw [Nat.zero_add] at hr
  refine ⟨r, _, 0, hr, by rw [hn]; decide, ?_⟩
  rcases hr.handed with he | hh
  · rw [he] at hn
    cases hn
  rw [hh.data_eq, hrel (by norm_num), if_pos ⟨Nat.mod_self _, Nat.zero_le _⟩]

end Reader

end PacketRing
