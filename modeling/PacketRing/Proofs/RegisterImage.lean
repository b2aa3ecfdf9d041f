import Mathlib
import PacketRing.Proofs.Cursors
import PacketRing.Registers.Block
import PacketRing.Engine.Transfer

/-!
# The registers hold what the reader programmed

The reader programs five registers of the engine: the start and the end of its buffer, the read
address up to which it has given the buffer back, the interrupt mask and the enable bit. An
`Image` holds these five values, and `Reader.image` is what a reader stands for: its buffer's
bounds, the address of its done cursor, its configured mask and its `enabled` flag.

Every public operation does one of three things to the registers (`perform_registers`): setup
programs all five, disable clears the enable bit, and every other operation only reads the
status and the written address and acknowledges status flags (`Registers.Reads`), after which a
release of a nonzero count or a clear that reports no fault programs the read address at the new
done cursor. So a view of a backend that each register write changes in its own field
(`ImageLaws`) shows the reader's image after setup and after every operation that follows, as long
as nothing else changes what the view shows (`Programmed.image`). The simulated engine and a plain
register block both have such a view (`imageLaws_engine`, `imageLaws_block`); on the block,
switching the engine on or off changes bit 0 of the configuration word and nothing else, and no
operation touches the written-address word.

Main statements: `perform_registers`, `ImageLaws.perform`, `Programmed.image`,
`Programmed.agreesWith`, `Block.testBit_setEnabled`, `Block.perform_written`.
-/

namespace PacketRing

/-- The values of the five registers that the reader programs: the buffer's start and end
address, the read address up to which the buffer is given back, the interrupt mask as a register
word, and the enable bit. -/
structure Image where
  start : UInt32
  stop : UInt32
  read : UInt32
  mask : UInt32
  enabled : Bool
deriving DecidableEq, Repr

/-- The registers as reader `r` is meant to have programmed them, read as numbers: the buffer's
bus address and that plus the size, the bus address plus the done cursor, which is a
packet-aligned offset inside the buffer, the configured interrupt mask, and whether `r` is
enabled. -/
structure Image.AgreesWith (img : Image) (r : Reader) : Prop where
  start : img.start = r.buffer.busAddress
  stop : img.stop.toNat = r.buffer.busAddress.toNat + r.size
  read : img.read.toNat = r.buffer.busAddress.toNat + r.done
  done_lt : r.done < r.size
  dvd_done : r.packetLength ∣ r.done
  mask : img.mask = r.config.mask.toBits
  enabled : img.enabled = r.enabled

namespace Registers

variable {β : Type} [Registers β]

/-- The backend states that reading the status and the written address and acknowledging status
flags lead to: register accesses that program nothing. -/
inductive Reads : β → β → Prop
  | refl (s : β) : Reads s s
  | readStatus {s s' : β} : Reads s s' → Reads s (status s').2
  | acknowledge {s s' : β} (st : Status) : Reads s s' → Reads s (clearStatus st s')
  | readWritten {s s' : β} : Reads s s' → Reads s (written s').2

/-- What reads and acknowledgements leave alone, a run of them leaves alone. -/
theorem Reads.keep {γ : Type} (view : β → γ) (hs : ∀ s, view (status s).2 = view s)
    (hc : ∀ st s, view (clearStatus st s) = view s) (hw : ∀ s, view (written s).2 = view s)
    {s s' : β} (h : Reads s s') : view s' = view s := by
  induction h with
  | refl => rfl
  | readStatus _ ih => rw [hs, ih]
  | acknowledge st _ ih => rw [hc, ih]
  | readWritten _ ih => rw [hw, ih]

end Registers

/-- A view of a backend's programmed registers: each register write changes its own field of the
view, and reads and acknowledgements change nothing. -/
structure ImageLaws {β : Type} [Registers β] (view : β → Image) : Prop where
  setStart : ∀ a s, view (Registers.setStart a s) = { view s with start := a }
  setEnd : ∀ a s, view (Registers.setEnd a s) = { view s with stop := a }
  setRead : ∀ a s, view (Registers.setRead a s) = { view s with read := a }
  setMask : ∀ m s, view (Registers.setMask m s) = { view s with mask := m.toBits }
  setEnabled : ∀ on s, view (Registers.setEnabled on s) = { view s with enabled := on }
  status : ∀ s, view (Registers.status s).2 = view s
  clearStatus : ∀ st s, view (Registers.clearStatus st s) = view s
  written : ∀ s, view (Registers.written s).2 = view s

namespace Reader

variable {β : Type} [Registers β]

/-- The registers as the reader programs them. -/
def image (r : Reader) : Image :=
  ⟨r.startAddress, r.endAddress, r.addressOf r.done, r.config.mask.toBits, r.enabled⟩

/-- Whether public operation `o` at backend state `s` programs the read address: setup always,
and a release of a nonzero count or a clear when it reports no fault. -/
def programsRead (r : Reader) : ReaderOp → β → Bool
  | .setup, _ => true
  | .release n, s => n != 0 && ((r.doneWithData n).run s).1.2.isEmpty
  | .clear, s => (r.clearAllData.run s).1.2.isEmpty
  | _, _ => false

/-! ### What one operation does to the registers -/

theorem reads_afterPoll (s : β) : Registers.Reads s (afterPoll s) := by
  unfold afterPoll
  split
  · exact .readStatus (.refl s)
  · exact .acknowledge _ (.readStatus (.refl s))

theorem reads_receiveFrame (r : Reader) (least most : Nat) (s : β) :
    Registers.Reads s (r.receiveFrame least most s) := by
  unfold receiveFrame
  split
  · exact .readWritten (reads_afterPoll s)
  · exact reads_afterPoll s

/-- A receive moves only the outstanding cursor and the received total, which no register shows. -/
theorem grant_image (r : Reader) (least most w : Nat) :
    (r.grant least most w).2.image = r.image := by
  rcases grant_cases r least most w with h | ⟨-, h⟩
  · rw [h]
  · rw [h]
    rfl

theorem receiveData_image (r : Reader) (least most : Nat) (s : β) :
    ((r.receiveData least most).run s).1.1.2.image = r.image := by
  rcases hrun : (r.receive least most : RegisterM β _).run.run s with ⟨f | v, s'⟩
  · rw [receiveData, orFault_of_error hrun]
  · obtain ⟨-, -, -, -, w, -, rfl, -⟩ := receive_eq_ok hrun
    rw [receiveData, orFault_of_ok hrun, grant_image]

theorem receiveData_state (r : Reader) (least most : Nat) (s : β) :
    ((r.receiveData least most).run s).2 = r.receiveFrame least most s := by
  rw [receiveData, orFault_state, receive_state_eq_frame]

/-- **What one public operation does to the registers.** Setup programs the start, the end, the
read address at the done cursor, the mask and the enable bit, in this order; disable clears the
enable bit; every other operation reads and acknowledges, and then programs the read address at
its new done cursor exactly when `programsRead` says so. The reader's image changes only where the
registers are programmed. -/
theorem perform_registers (r : Reader) (o : ReaderOp) (s : β) :
    let r' := ((r.perform o).run s).1.1
    let s' := ((r.perform o).run s).2
    (o = .setup ∧ r' = { r with enabled := true } ∧
        s' = Registers.setEnabled true (Registers.setMask r.config.mask
          (Registers.setRead (r.addressOf r.done)
            (Registers.setEnd r.endAddress (Registers.setStart r.startAddress s))))) ∨
      (o = .disable ∧ r' = { r with enabled := false } ∧ s' = Registers.setEnabled false s) ∨
      (o ≠ .setup ∧ o ≠ .disable ∧ ∃ s₁, Registers.Reads s s₁ ∧
        if r.programsRead o s then
          r'.image = { r.image with read := r'.addressOf r'.done } ∧
            s' = Registers.setRead (r'.addressOf r'.done) s₁
        else r'.image = r.image ∧ s' = s₁) := by
  dsimp only
  cases o with
  | setup => exact .inl ⟨rfl, rfl, rfl⟩
  | disable => exact .inr (.inl ⟨rfl, rfl, rfl⟩)
  | checkStatus =>
    refine .inr (.inr ⟨by simp, by simp, afterPoll s, reads_afterPoll s, ?_⟩)
    simp only [programsRead, Bool.false_eq_true, if_false, perform_checkStatus, checkStatus,
      orFault_state, poll_run, and_self]
  | available =>
    refine .inr (.inr ⟨by simp, by simp, (Registers.written s).2, .readWritten (.refl s), ?_⟩)
    simp only [programsRead, Bool.false_eq_true, if_false, perform_available, numAvailable,
      orFault_state, available_run, and_self]
  | receiveAll =>
    refine .inr (.inr ⟨by simp, by simp, _, reads_receiveFrame r 0 r.size s, ?_⟩)
    simp only [programsRead, Bool.false_eq_true, if_false, perform_receiveAll, perform_receive,
      receiveData_image, receiveData_state, and_self]
  | receive least most =>
    refine .inr (.inr ⟨by simp, by simp, _, reads_receiveFrame r least most s, ?_⟩)
    simp only [programsRead, Bool.false_eq_true, if_false, perform_receive, receiveData_image,
      receiveData_state, and_self]
  | release n =>
    refine .inr (.inr ⟨by simp, by simp, ?_⟩)
    simp only [programsRead, perform_release, doneWithData]
    rcases hrun : (r.release n : RegisterM β Reader).run.run s with ⟨f | r'', s''⟩
    · -- a release that fails has touched no register
      have hs : s'' = s := by
        have h := release_state_of_error (by rw [hrun])
        rwa [hrun] at h
      simp only [orFault_of_error hrun, hs]
      exact ⟨s, .refl s, by simp⟩
    · simp only [orFault_of_ok hrun]
      obtain ⟨-, -, ⟨rfl, rfl, rfl⟩ | ⟨hn, rfl, rfl⟩⟩ := release_eq_ok hrun
      · exact ⟨_, .refl _, by simp⟩
      · refine ⟨s, .refl s, ?_⟩
        rw [if_pos (by simp only [List.isEmpty_nil, Bool.and_true, bne_iff_ne]; omega)]
        exact ⟨rfl, rfl⟩
  | clear =>
    refine .inr (.inr ⟨by simp, by simp, (Registers.written s).2, .readWritten (.refl s), ?_⟩)
    simp only [programsRead, perform_clear, clearAllData]
    cases hw : r.offsetOfAddress (Registers.written s).1 with
    | error f =>
      have hrun :
          (r.clear : RegisterM β Reader).run.run s = (.error f, (Registers.written s).2) := by
        rw [clear_run, hw]
      simp [orFault_of_error hrun]
    | ok w =>
      have hrun : (r.clear : RegisterM β Reader).run.run s =
          (.ok (r.clearedAt w), Registers.setRead (r.addressOf w) (Registers.written s).2) := by
        rw [clear_run, hw]
      simp only [orFault_of_ok hrun, List.isEmpty_nil, if_true]
      exact ⟨rfl, rfl⟩

end Reader

/-! ### Views that follow the register writes -/

namespace ImageLaws

open Reader

variable {β : Type} [Registers β] {view : β → Image} (hv : ImageLaws view)
include hv

theorem reads {s s' : β} (h : Registers.Reads s s') : view s' = view s :=
  h.keep view hv.status hv.clearStatus hv.written

/-- Setup programs every register the view shows, whatever the backend held before. -/
theorem setup (r : Reader) (s : β) : view (r.setup.run s).2 = (r.setup.run s).1.image := by
  rw [setup_run]
  simp only [hv.setEnabled, hv.setMask, hv.setRead, hv.setEnd, hv.setStart]
  rfl

/-- **Every public operation keeps the view on the reader's image**: what it programs, it programs
from the reader it leaves, and what it does not program, that reader does not move. -/
theorem perform {r : Reader} {s : β} (h : view s = r.image) (o : ReaderOp) :
    view ((r.perform o).run s).2 = ((r.perform o).run s).1.1.image := by
  rcases perform_registers r o s with
    ⟨rfl, -, -⟩ | ⟨rfl, hr, hs⟩ | ⟨-, -, s₁, hreads, hp⟩
  · exact hv.setup r s
  · rw [hs, hr, hv.setEnabled, h]
    rfl
  · have h₁ : view s₁ = r.image := (hv.reads hreads).trans h
    split at hp
    · obtain ⟨hr, hs⟩ := hp
      rw [hs, hv.setRead, h₁, hr]
    · obtain ⟨hr, hs⟩ := hp
      rw [hs, h₁, hr]

end ImageLaws

namespace Reader

variable {β : Type} [Registers β]

/-- The readers and backend states after `Reader.setup` and the public operations that follow it,
with the written offset that the last successful clear observed. Between two operations the
backend may change in any way that `view` does not show: the engine writes packets, raises status
flags and moves its written address, but programs nothing. -/
inductive Programmed (view : β → Image) : Nat → Reader → β → Prop
  | setup {b : Nat} {r : Reader} (s : β) :
      Reachable β b r → Programmed view b (r.setup.run s).1 (r.setup.run s).2
  | step {b : Nat} {r : Reader} {s : β} (o : ReaderOp) :
      Programmed view b r s →
        Programmed view (r.observedBase b o s) ((r.perform o).run s).1.1 ((r.perform o).run s).2
  | outside {b : Nat} {r : Reader} {s s' : β} :
      Programmed view b r s → view s' = view s → Programmed view b r s'

variable {view : β → Image} {b : Nat} {r : Reader} {s : β}

theorem Programmed.reachable (h : Programmed view b r s) : Reachable β b r := by
  induction h with
  | setup s hr => exact .step .setup s hr
  | step o _ ih => exact .step o _ ih
  | outside _ _ ih => exact ih

theorem Programmed.image (hv : ImageLaws view) (h : Programmed view b r s) : view s = r.image := by
  induction h with
  | setup s _ => exact hv.setup _ s
  | step o _ ih => exact hv.perform ih o
  | outside _ hs ih => rw [hs, ih]

/-- The image of a reader that public operations reached is what the reader is meant to have
programmed: the bounds and the done cursor of a well-formed reader are exact as numbers. -/
theorem Reachable.image_agreesWith (h : Reachable β b r) : r.image.AgreesWith r := by
  have hc := h.cursors
  exact ⟨rfl, hc.wellFormed.endAddress_toNat, hc.wellFormed.addressOf_toNat hc.done_lt,
    hc.done_lt, hc.dvd_done, rfl, rfl⟩

/-- **The registers agree with the reader** after setup and every public operation that follows,
for a view that each register write changes in its own field. -/
theorem Programmed.agreesWith (hv : ImageLaws view) (h : Programmed view b r s) :
    (view s).AgreesWith r := by
  rw [h.image hv]
  exact h.reachable.image_agreesWith

end Reader

/-! ### The simulated engine -/

namespace Engine

/-- The five programmed registers of the simulated engine. -/
def image (e : Engine) : Image :=
  ⟨e.startAddress, e.endAddress, e.readAddress, e.mask.toBits, e.enabled⟩

/-- The alignment check of a programmed address raises a status flag and nothing else. -/
theorem image_checkAligned (e : Engine) (a : UInt32) (f : Flag) :
    (e.checkAligned a f).image = e.image := by
  unfold checkAligned
  split <;> rfl

/-- The engine's own writes move the written address and raise `writeDone`, and program nothing. -/
theorem image_commit {e e' : Engine} {t : Transfer} (h : e.commit t = .ok e') :
    e'.image = e.image := by
  unfold commit at h
  split at h
  · cases h
    rfl
  · cases hadd : addWords? (e.offsetOf e.writtenAddress) t.amount with
    | error a => simp [hadd, bind, Except.bind] at h
    | ok next =>
      simp only [hadd, bind, Except.bind, pure, Except.pure, Except.ok.injEq] at h
      subst h
      rfl

theorem image_produce {e e' : Engine} {k : UInt32} {t : Transfer}
    (h : e.produce k = .ok (t, e')) : e'.image = e.image := by
  unfold produce at h
  cases hplan : e.plan k with
  | error a => simp [hplan, bind, Except.bind] at h
  | ok t' =>
    cases hcommit : e.commit t' with
    | error a => simp [hplan, hcommit, bind, Except.bind] at h
    | ok e'' =>
      simp only [hplan, hcommit, bind, Except.bind, pure, Except.pure, Except.ok.injEq,
        Prod.mk.injEq] at h
      obtain ⟨-, rfl⟩ := h
      exact image_commit hcommit

end Engine

theorem imageLaws_engine : ImageLaws Engine.image where
  setStart a e := by
    show Engine.image
      { e.checkAligned a .startUnaligned with startAddress := a, writtenAddress := a } = _
    rw [← e.image_checkAligned a .startUnaligned]
    rfl
  setEnd a e := by
    show Engine.image { e.checkAligned a .endUnaligned with endAddress := a } = _
    rw [← e.image_checkAligned a .endUnaligned]
    rfl
  setRead a e := by
    show Engine.image { e.checkAligned a .readUnaligned with readAddress := a } = _
    rw [← e.image_checkAligned a .readUnaligned]
    rfl
  setMask _ _ := rfl
  setEnabled _ _ := rfl
  status _ := rfl
  clearStatus _ _ := rfl
  written _ := rfl

/-! ### The plain register block -/

namespace Block

@[simp] theorem setStart_eq (a : UInt32) (b : Block) : Registers.setStart a b = b.put .start a :=
  rfl

@[simp] theorem setEnd_eq (a : UInt32) (b : Block) : Registers.setEnd a b = b.put .stop a := rfl

@[simp] theorem setRead_eq (a : UInt32) (b : Block) : Registers.setRead a b = b.put .read a := rfl

@[simp] theorem setMask_eq (m : Status) (b : Block) :
    Registers.setMask m b = b.put .mask m.toBits := rfl

@[simp] theorem clearStatus_eq (st : Status) (b : Block) :
    Registers.clearStatus st b = b.put .status st.toBits := rfl

@[simp] theorem status_eq (b : Block) : Registers.status b = (Status.ofBits (b.get .status), b) :=
  rfl

@[simp] theorem written_eq (b : Block) : Registers.written b = (b.get .written, b) := rfl

/-- The five programmed registers of a plain block; the enable bit is bit 0 of the configuration
word. -/
def image (b : Block) : Image :=
  ⟨b.get .start, b.get .stop, b.get .read, b.get .mask, (b.get .config).toNat.testBit 0⟩

/-- Switching the engine on or off is a read-modify-write of the configuration word that sets or
clears bit 0 and keeps every other bit. -/
theorem testBit_setEnabled (on : Bool) (b : Block) (i : Nat) :
    ((Registers.setEnabled on b).get .config).toNat.testBit i =
      if i = 0 then on else (b.get .config).toNat.testBit i := by
  show ((b.put .config (if on then b.get .config ||| 1 else b.get .config &&& ~~~1)).get
    .config).toNat.testBit i = _
  -- bit `i` of a word is bit `i` of its bit vector, where the two masks are taken apart bitwise
  rw [get_put, if_pos rfl, ← UInt32.toNat_toBitVec, BitVec.testBit_toNat,
    ← UInt32.toNat_toBitVec, BitVec.testBit_toNat]
  cases on with
  | true => simp [Bool.or_comm]
  | false =>
    simp only [Bool.false_eq_true, if_false, UInt32.toBitVec_and, UInt32.toBitVec_not,
      BitVec.getLsbD_and, BitVec.getLsbD_not, UInt32.toBitVec_one, BitVec.getLsbD_one]
    by_cases h : i < 32
    · by_cases h0 : i = 0 <;> simp [h, h0]
    · -- past the word's 32 bits both sides read zero
      simp [h, BitVec.getLsbD_of_ge (b.get .config).toBitVec i (by omega), show i ≠ 0 by omega]

/-- Switching the engine on or off writes the configuration word only. -/
theorem get_setEnabled_of_ne {reg : Register} (h : reg ≠ .config) (on : Bool) (b : Block) :
    (Registers.setEnabled on b).get reg = b.get reg := by
  show (b.put .config _).get reg = _
  rw [get_put, if_neg (Ne.symm h)]

/-- **The reader never writes the written-address word**: it is the engine's, and every public
operation leaves it as it was. -/
theorem perform_written (r : Reader) (o : ReaderOp) (b : Block) :
    ((r.perform o).run b).2.get .written = b.get .written := by
  have hreads : ∀ {b₁ : Block}, Registers.Reads b b₁ → b₁.get .written = b.get .written :=
    fun h => h.keep (fun b' => b'.get .written) (fun _ => rfl) (fun _ _ => by simp) (fun _ => rfl)
  rcases Reader.perform_registers r o b with
    ⟨-, -, hs⟩ | ⟨-, -, hs⟩ | ⟨-, -, b₁, hb, hp⟩
  · rw [hs, get_setEnabled_of_ne (by decide)]
    simp
  · rw [hs, get_setEnabled_of_ne (by decide)]
  · split at hp
    · rw [hp.2, setRead_eq, get_put, if_neg (by decide), hreads hb]
    · rw [hp.2, hreads hb]

end Block

theorem imageLaws_block : ImageLaws Block.image where
  setStart _ _ := by simp [Block.image]
  setEnd _ _ := by simp [Block.image]
  setRead _ _ := by simp [Block.image]
  setMask _ _ := by simp [Block.image]
  setEnabled on b := by
    have hbit : ((Registers.setEnabled on b).get .config).toNat.testBit 0 = on := by
      rw [Block.testBit_setEnabled, if_pos rfl]
    simp only [Block.image, hbit, Block.get_setEnabled_of_ne, ne_eq, reduceCtorEq,
      not_false_eq_true]
  status _ := rfl
  clearStatus _ _ := by simp [Block.image]
  written _ := rfl

end PacketRing
