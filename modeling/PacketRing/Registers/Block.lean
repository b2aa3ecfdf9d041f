import PacketRing.Abort
import PacketRing.Registers

/-!
# The register block

The engine's registers are seven 32-bit words at consecutive word offsets: configuration, status,
interrupt mask, start, end, written and read address. `Block` holds their values, and
`Block.read` and `Block.write` reach them by byte offset, refusing an offset that does not name
a whole word of the block.

On a plain block every register access is a word access: acknowledging status flags writes their
bits to the status word, and switching the engine on or off changes only bit 0 of the
configuration word.

Main definitions: `Register`, `Block`, `Block.read`, `Block.write`, and the `Registers` instance.
-/

namespace PacketRing

/-- The registers of the block, in the order of their offsets. -/
inductive Register where
  | config
  | status
  | mask
  | start
  | stop
  | written
  | read
deriving DecidableEq, Repr

/-- The position of the register's word in the block. -/
def Register.index : Register → Fin 7
  | config => 0
  | status => 1
  | mask => 2
  | start => 3
  | stop => 4
  | written => 5
  | read => 6

theorem Register.index_injective {r s : Register} (h : r.index = s.index) : r = s := by
  cases r <;> cases s <;> first | rfl | exact absurd h (by decide)

/-- The enable bit of the configuration word. -/
def enableBit : UInt32 := 1

/-- The largest byte offset, `2 ^ 64 - 1`. -/
def offsetMax : Nat := 18446744073709551615

/-- The values of the seven registers. -/
structure Block where
  words : Vector UInt32 7
deriving DecidableEq, Repr

namespace Block

/-- The block with every word zero. -/
def zero : Block := ⟨Vector.replicate 7 0⟩

/-- The value of a register. -/
def get (b : Block) (r : Register) : UInt32 := b.words[r.index]

/-- The block with one register changed. -/
def put (b : Block) (r : Register) (v : UInt32) : Block := ⟨b.words.set r.index v⟩

@[simp]
theorem get_put (b : Block) (r s : Register) (v : UInt32) :
    (b.put r v).get s = if r = s then v else b.get s := by
  unfold get put
  rw [Fin.getElem_fin, Fin.getElem_fin, Vector.getElem_set]
  by_cases h : r = s
  · subst h
    simp
  · have hne : (r.index : Nat) ≠ s.index := fun e => h (Register.index_injective (Fin.ext e))
    simp [h, hne]

/-- The word named by a byte offset: the offset must be a multiple of four and the word must end
inside the block. The end of the word is computed first, and an offset whose end passes the
largest offset aborts there. -/
def locate (offset : Nat) (outside : Abort) : Except Abort (Fin 7) :=
  if offset % 4 ≠ 0 then .error outside
  else if offsetMax < offset + 4 then .error .addOverflow
  else if h : offset + 4 ≤ 28 then .ok ⟨offset / 4, by omega⟩
  else .error outside

/-- The word at a byte offset. -/
def read (b : Block) (offset : Nat) : Except Abort UInt32 :=
  (locate offset (.readOutOfBounds offset)).map fun i => b.words[i]

/-- The block with the word at a byte offset replaced. -/
def write (b : Block) (offset : Nat) (v : UInt32) : Except Abort Block :=
  (locate offset (.writeOutOfBounds offset)).map fun (i : Fin 7) => ⟨b.words.set i v⟩

theorem locate_eq_ok {offset : Nat} {outside : Abort} {i : Fin 7} :
    locate offset outside = .ok i ↔ offset = 4 * i := by
  unfold locate offsetMax
  constructor
  · intro h
    split at h
    · cases h
    split at h
    · cases h
    split at h
    · cases h
      simp only
      omega
    · cases h
  · intro h
    have h1 : offset % 4 = 0 := by omega
    have h2 : offset + 4 ≤ 28 := by omega
    rw [if_neg (by omega), if_neg (by omega), dif_pos h2]
    congr
    omega

end Block

/-- Registers on a plain block: each access reads or writes one word. -/
instance : Registers Block where
  setEnabled on b :=
    let v := b.get .config
    b.put .config (if on then v ||| enableBit else v &&& ~~~enableBit)
  status b := (Status.ofBits (b.get .status), b)
  clearStatus s b := b.put .status s.toBits
  setMask s b := b.put .mask s.toBits
  setStart a b := b.put .start a
  setEnd a b := b.put .stop a
  written b := (b.get .written, b)
  setRead a b := b.put .read a

end PacketRing
