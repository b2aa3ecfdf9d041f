import Mathlib
import PacketRing.Proofs.RegisterImage

/-!
# Every register access the reader makes

`Traced β` runs a backend `β` and records every register access made on it, oldest first, as a
`RegisterCall`. Recording changes nothing the reader sees (`perform_traced`), and the record shows
where the read address is programmed (`perform_readWrites`): setup programs it once, a release of
a nonzero count and a clear that report no fault program it once, at the new done cursor, and no
other operation programs it. The engine learns of given-back bytes through this register only, so
every path that moves the done cursor writes it, with the value the cursor has, and no path that
leaves the cursor alone writes it.

Main statements: `perform_traced`, `perform_readWrites`, and `registers_follow_reader`, which
gathers what the registers of the simulated engine and of a plain register block hold.
-/

namespace PacketRing

/-- A backend that records every register access made on it, oldest first. -/
structure Traced (β : Type) where
  backend : β
  calls : List RegisterCall

namespace RegisterCall

/-- The address that the access programs into the read-address register, if it is such a write. -/
def readAddress? : RegisterCall → Option UInt32
  | setRead a => some a
  | _ => none

end RegisterCall

namespace Traced

variable {β : Type} [Registers β]

instance : Registers (Traced β) where
  setEnabled on t := ⟨Registers.setEnabled on t.backend, t.calls ++ [.setEnabled on]⟩
  status t :=
    ((Registers.status t.backend).1, ⟨(Registers.status t.backend).2, t.calls ++ [.status]⟩)
  clearStatus st t := ⟨Registers.clearStatus st t.backend, t.calls ++ [.clearStatus st]⟩
  setMask m t := ⟨Registers.setMask m t.backend, t.calls ++ [.setMask m]⟩
  setStart a t := ⟨Registers.setStart a t.backend, t.calls ++ [.setStart a]⟩
  setEnd a t := ⟨Registers.setEnd a t.backend, t.calls ++ [.setEnd a]⟩
  written t :=
    ((Registers.written t.backend).1, ⟨(Registers.written t.backend).2, t.calls ++ [.written]⟩)
  setRead a t := ⟨Registers.setRead a t.backend, t.calls ++ [.setRead a]⟩

section Accesses

variable (t : Traced β)

@[simp] theorem status_fst : (Registers.status t).1 = (Registers.status t.backend).1 := rfl

@[simp] theorem written_fst : (Registers.written t).1 = (Registers.written t.backend).1 := rfl

@[simp] theorem backend_status : (Registers.status t).2.backend = (Registers.status t.backend).2 :=
  rfl

@[simp] theorem backend_written :
    (Registers.written t).2.backend = (Registers.written t.backend).2 := rfl

@[simp] theorem backend_clearStatus (st : Status) :
    (Registers.clearStatus st t).backend = Registers.clearStatus st t.backend := rfl

@[simp] theorem backend_setRead (a : UInt32) :
    (Registers.setRead a t).backend = Registers.setRead a t.backend := rfl

@[simp] theorem calls_status : (Registers.status t).2.calls = t.calls ++ [.status] := rfl

@[simp] theorem calls_written : (Registers.written t).2.calls = t.calls ++ [.written] := rfl

@[simp] theorem calls_clearStatus (st : Status) :
    (Registers.clearStatus st t).calls = t.calls ++ [.clearStatus st] := rfl

@[simp] theorem calls_setRead (a : UInt32) :
    (Registers.setRead a t).calls = t.calls ++ [.setRead a] := rfl

@[simp] theorem calls_setStart (a : UInt32) :
    (Registers.setStart a t).calls = t.calls ++ [.setStart a] := rfl

@[simp] theorem calls_setEnd (a : UInt32) :
    (Registers.setEnd a t).calls = t.calls ++ [.setEnd a] := rfl

@[simp] theorem calls_setMask (m : Status) :
    (Registers.setMask m t).calls = t.calls ++ [.setMask m] := rfl

@[simp] theorem calls_setEnabled (on : Bool) :
    (Registers.setEnabled on t).calls = t.calls ++ [.setEnabled on] := rfl

end Accesses

/-! ### Recording changes nothing the reader sees -/

open Reader

theorem afterPoll_backend (t : Traced β) : (afterPoll t).backend = afterPoll t.backend := by
  unfold afterPoll
  by_cases h : (Registers.status t.backend).1.isEmpty = true <;> simp [h]

/-- A run on a recording backend with its record dropped: the value, and the backend under the
record. -/
def forget {α : Type} (p : α × Traced β) : α × β := (p.1, p.2.backend)

omit [Registers β] in
/-- A public operation run on a recording backend gives what it gives on the backend itself, as
long as the operation it wraps does. -/
theorem orFault_traced {α : Type} {m : RegisterM (Traced β) α} {m' : RegisterM β α}
    (fallback : α) {t : Traced β} (h : forget (m.run.run t) = m'.run.run t.backend) :
    forget ((orFault m fallback).run t) = (orFault m' fallback).run t.backend := by
  rcases hm : m.run.run t with ⟨x | v, t'⟩
  · rw [hm] at h
    rw [orFault_of_error hm, orFault_of_error h.symm]
    rfl
  · rw [hm] at h
    rw [orFault_of_ok hm, orFault_of_ok h.symm]
    rfl

section Operations

variable (r : Reader) (t : Traced β)

theorem poll_traced :
    forget ((poll : RegisterM (Traced β) Bool).run.run t) =
      (poll : RegisterM β Bool).run.run t.backend := by
  rw [poll_run, poll_run, forget, afterPoll_backend]
  rfl

theorem available_traced :
    forget ((r.available : RegisterM (Traced β) Nat).run.run t) =
      (r.available : RegisterM β Nat).run.run t.backend := by
  rw [available_run, available_run]
  rfl

theorem receive_traced (least most : Nat) :
    forget ((r.receive least most : RegisterM (Traced β) _).run.run t) =
      (r.receive least most : RegisterM β _).run.run t.backend := by
  rw [receive_run, receive_run]
  simp only [status_fst, written_fst, afterPoll_backend]
  split_ifs <;> simp [forget, afterPoll_backend]

theorem release_traced (n : Nat) :
    forget ((r.release n : RegisterM (Traced β) Reader).run.run t) =
      (r.release n : RegisterM β Reader).run.run t.backend := by
  rw [release_run, release_run]
  split_ifs <;> rfl

theorem clear_traced :
    forget ((r.clear : RegisterM (Traced β) Reader).run.run t) =
      (r.clear : RegisterM β Reader).run.run t.backend := by
  rw [clear_run, clear_run, written_fst]
  cases r.offsetOfAddress (Registers.written t.backend).1 <;> rfl

end Operations

/-- **Recording the accesses changes nothing**: on a recording backend every public operation
gives the reader, the faults and, under the record, the backend that it gives on the backend
itself. -/
theorem perform_traced (r : Reader) (o : ReaderOp) (t : Traced β) :
    forget ((r.perform o).run t) = (r.perform o).run t.backend := by
  cases o with
  | setup => rfl
  | disable => rfl
  | checkStatus =>
    simp only [perform_checkStatus, checkStatus]
    rw [← orFault_traced false (poll_traced t)]
    rfl
  | available =>
    simp only [perform_available, numAvailable]
    rw [← orFault_traced 0 (available_traced r t)]
    rfl
  | receiveAll =>
    simp only [perform_receiveAll, perform_receive, receiveData]
    rw [← orFault_traced (Response.empty, r) (receive_traced r t 0 r.size)]
    rfl
  | receive least most =>
    simp only [perform_receive, receiveData]
    rw [← orFault_traced (Response.empty, r) (receive_traced r t least most)]
    rfl
  | release n => exact orFault_traced r (release_traced r t n)
  | clear => exact orFault_traced r (clear_traced r t)

theorem perform_traced_fst (r : Reader) (o : ReaderOp) (t : Traced β) :
    ((r.perform o).run t).1 = ((r.perform o).run t.backend).1 :=
  congrArg Prod.fst (perform_traced r o t)

theorem perform_traced_backend (r : Reader) (o : ReaderOp) (t : Traced β) :
    ((r.perform o).run t).2.backend = ((r.perform o).run t.backend).2 :=
  congrArg Prod.snd (perform_traced r o t)

theorem programsRead_traced (r : Reader) (o : ReaderOp) (t : Traced β) :
    r.programsRead o t = r.programsRead o t.backend := by
  cases o with
  | release n =>
    show (n != 0 && ((r.perform (.release n)).run t).1.2.isEmpty) =
      (n != 0 && ((r.perform (.release n)).run t.backend).1.2.isEmpty)
    rw [perform_traced_fst]
  | clear =>
    show ((r.perform .clear).run t).1.2.isEmpty = ((r.perform .clear).run t.backend).1.2.isEmpty
    rw [perform_traced_fst]
  | _ => rfl

/-! ### Where the read address is written -/

/-- Reads and acknowledgements add accesses to the record, none of which programs the read
address. -/
theorem reads_calls {t t' : Traced β} (h : Registers.Reads t t') :
    ∃ new, t'.calls = t.calls ++ new ∧ new.filterMap RegisterCall.readAddress? = [] := by
  induction h with
  | refl => exact ⟨[], by simp, rfl⟩
  | readStatus _ ih =>
    obtain ⟨new, hc, hr⟩ := ih
    exact ⟨new ++ [.status], by simp [hc], by simp [hr, RegisterCall.readAddress?]⟩
  | acknowledge st _ ih =>
    obtain ⟨new, hc, hr⟩ := ih
    exact ⟨new ++ [.clearStatus st], by simp [hc], by simp [hr, RegisterCall.readAddress?]⟩
  | readWritten _ ih =>
    obtain ⟨new, hc, hr⟩ := ih
    exact ⟨new ++ [.written], by simp [hc], by simp [hr, RegisterCall.readAddress?]⟩

/-- **The read address is written exactly where the done cursor moves.** The accesses that one
public operation adds to the record program the read address once, at the done cursor of the
reader it leaves, when `programsRead` holds (setup, and a release of a nonzero count or a clear
that reports no fault), and never otherwise. -/
theorem perform_readWrites (r : Reader) (o : ReaderOp) (t : Traced β) :
    ∃ new, ((r.perform o).run t).2.calls = t.calls ++ new ∧
      new.filterMap RegisterCall.readAddress? =
        if r.programsRead o t.backend then
          [((r.perform o).run t.backend).1.1.addressOf ((r.perform o).run t.backend).1.1.done]
        else [] := by
  rw [← perform_traced_fst, ← programsRead_traced]
  rcases perform_registers r o t with
    ⟨rfl, hr, hs⟩ | ⟨rfl, hr, hs⟩ | ⟨-, -, t₁, hreads, hp⟩
  · -- setup programs the read address between the end address and the mask
    refine ⟨[.setStart r.startAddress, .setEnd r.endAddress, .setRead (r.addressOf r.done),
      .setMask r.config.mask, .setEnabled true], by rw [hs]; simp, ?_⟩
    rw [hr]
    rfl
  · exact ⟨[.setEnabled false], by rw [hs]; simp, rfl⟩
  · obtain ⟨new, hc, hnone⟩ := reads_calls hreads
    split at hp
    · rename_i hprog
      refine ⟨new ++
        [.setRead (((r.perform o).run t).1.1.addressOf ((r.perform o).run t).1.1.done)],
        by simp [hp.2, hc], ?_⟩
      rw [if_pos hprog]
      simp [hnone, RegisterCall.readAddress?]
    · rename_i hprog
      refine ⟨new, by rw [hp.2, hc], ?_⟩
      rw [if_neg hprog, hnone]

end Traced

/-- **The registers follow the reader.** Over the simulated engine and over a plain register
block, once setup has run and as long as only the engine's own writes change the registers between
operations, the start and end registers hold the buffer's bus address and that plus its size, the
read-address register holds the bus address plus the done cursor, a packet-aligned offset inside
the buffer, the mask register holds the configured mask, and the enable bit is the reader's
`enabled`. Over any backend, recording the accesses changes nothing, and setup, a release of a
nonzero count and a clear that report no fault each program the read address exactly once, at the
new done cursor, while no other operation programs it. On the block, switching the engine on or off
changes bit 0 of the configuration word and nothing else, and no operation writes the
written-address word. -/
theorem registers_follow_reader :
    (∀ {b : Nat} {r : Reader} {e : Engine}, Reader.Programmed Engine.image b r e →
      e.image.AgreesWith r ∧ e.mask = r.config.mask) ∧
    (∀ {b : Nat} {r : Reader} {k : Block}, Reader.Programmed Block.image b r k →
      k.image.AgreesWith r) ∧
    (∀ {β : Type} [Registers β] (r : Reader) (o : ReaderOp) (t : Traced β),
      ((r.perform o).run t).1 = ((r.perform o).run t.backend).1 ∧
      ((r.perform o).run t).2.backend = ((r.perform o).run t.backend).2 ∧
      ∃ new, ((r.perform o).run t).2.calls = t.calls ++ new ∧
        new.filterMap RegisterCall.readAddress? =
          if r.programsRead o t.backend then
            [((r.perform o).run t.backend).1.1.addressOf ((r.perform o).run t.backend).1.1.done]
          else []) ∧
    (∀ (on : Bool) (k : Block) (i : Nat),
      ((Registers.setEnabled on k).get .config).toNat.testBit i =
        if i = 0 then on else (k.get .config).toNat.testBit i) ∧
    (∀ (on : Bool) (k : Block) (reg : Register), reg ≠ .config →
      (Registers.setEnabled on k).get reg = k.get reg) ∧
    (∀ (r : Reader) (o : ReaderOp) (k : Block),
      ((r.perform o).run k).2.get .written = k.get .written) := by
  refine ⟨fun {b r e} h => ?_, fun h => h.agreesWith imageLaws_block, fun r o t => ?_,
    Block.testBit_setEnabled, fun on k _ hreg => Block.get_setEnabled_of_ne hreg on k,
    Block.perform_written⟩
  · have ha := h.agreesWith imageLaws_engine
    -- the engine keeps the mask as flags; its word gives back the flags it was written from
    have hm : Status.ofBits e.mask.toBits = Status.ofBits r.config.mask.toBits :=
      congrArg Status.ofBits ha.mask
    rw [Status.ofBits_toBits, Status.ofBits_toBits] at hm
    exact ⟨ha, hm⟩
  · exact ⟨Traced.perform_traced_fst r o t, Traced.perform_traced_backend r o t,
      Traced.perform_readWrites r o t⟩

/-- Setup, a production of 256 bytes by the engine, a receive of 128 of them and a release of the
first 64; over the block, the written address is moved to the same place between setup and the
receive. -/
theorem registers_follow_reader_sampleReader :
    let s := Reader.sampleReader.setup.run ({ packetLength := 64 } : Engine)
    let e₁ : Engine := { s.2 with writtenAddress := 4352, status := { writeDone := true } }
    let u := (s.1.perform (.receive 64 128)).run e₁
    let v := (u.1.1.perform (.release 64)).run u.2
    let k := Reader.sampleReader.setup.run Block.zero
    let k₁ := k.2.put .written 4352
    let w := (k.1.perform (.receive 64 128)).run k₁
    let x := (w.1.1.perform (.release 64)).run w.2
    s.2.produce 256 = .ok (⟨256, [⟨0, 256⟩]⟩, e₁) ∧
      Reader.Programmed Engine.image 0 v.1.1 v.2 ∧ v.1.1.done = 64 ∧
      v.2.image.AgreesWith v.1.1 ∧ v.2.mask = v.1.1.config.mask ∧
      k₁.image = k.2.image ∧ Reader.Programmed Block.image 0 x.1.1 x.2 ∧ x.1.1.done = 64 ∧
      x.2.image.AgreesWith x.1.1 ∧
      Register.start ≠ .config ∧ (Registers.setEnabled true x.2).get .start = x.2.get .start := by
  intro s e₁ u v k k₁ w x
  have hprod : s.2.produce 256 = .ok (⟨256, [⟨0, 256⟩]⟩, e₁) := by decide
  -- the engine's production programs nothing, so the run goes on from the produced engine
  have he : Reader.Programmed Engine.image 0 v.1.1 v.2 :=
    .step (.release 64) (.step (.receive 64 128)
      (.outside (.setup _ (.new Reader.new?_sampleReader)) (Engine.image_produce hprod)))
  have hk₁ : k₁.image = k.2.image := by decide
  have hk : Reader.Programmed Block.image 0 x.1.1 x.2 :=
    .step (.release 64) (.step (.receive 64 128)
      (.outside (.setup _ (.new Reader.new?_sampleReader)) hk₁))
  have hne : Register.start ≠ .config := by decide
  exact ⟨hprod, he, by decide, (registers_follow_reader.1 he).1, (registers_follow_reader.1 he).2,
    hk₁, hk, by decide, registers_follow_reader.2.1 hk, hne,
    registers_follow_reader.2.2.2.2.1 true x.2 .start hne⟩

end PacketRing
