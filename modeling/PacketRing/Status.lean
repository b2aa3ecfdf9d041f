/-!
# Status flags of the write engine

The engine reports progress and faults through five sticky bits of its status register, and the
same layout selects which of them drive the interrupt line. A `Status` is a set of these five
flags; `Status.ofBits` reads a register word and drops every other bit, and `Status.toBits` writes
the set back as a word.

Main definitions:

* `Flag`: the five flags, with their bit positions and names;
* `Status`: a set of flags, with union, removal and the subset of error flags;
* `Status.describe`: the text `InterruptStatus(A | B)` naming the set flags in bit order.

Main statements: `has_ofBits` says which flags a word sets, and `ofBits_toBits` that encoding and
decoding a set gives it back.
-/

namespace PacketRing

/-- One flag of the status register. -/
inductive Flag where
  /-- At least one packet has been written since the flag was last cleared. -/
  | writeDone
  /-- A bus write of the engine failed. -/
  | writeError
  /-- The start address was programmed with a value that is not packet aligned. -/
  | startUnaligned
  /-- The end address was programmed with a value that is not packet aligned. -/
  | endUnaligned
  /-- The read address was programmed with a value that is not packet aligned. -/
  | readUnaligned
deriving DecidableEq, Repr

namespace Flag

/-- The flags in bit order. -/
def all : List Flag := [writeDone, writeError, startUnaligned, endUnaligned, readUnaligned]

/-- The position of the flag's bit in the register. -/
def index : Flag → Nat
  | writeDone => 0
  | writeError => 1
  | startUnaligned => 2
  | endUnaligned => 3
  | readUnaligned => 4

/-- The value of the flag's bit, `2 ^ index`. -/
def bit : Flag → Nat
  | writeDone => 1
  | writeError => 2
  | startUnaligned => 4
  | endUnaligned => 8
  | readUnaligned => 16

/-- The name under which the flag is reported. -/
def name : Flag → String
  | writeDone => "WRITE_DONE"
  | writeError => "WRITE_ERROR"
  | startUnaligned => "START_ADDRESS_UNALIGNED"
  | endUnaligned => "END_ADDRESS_UNALIGNED"
  | readUnaligned => "READ_ADDRESS_UNALIGNED"

/-- Every flag but `writeDone` reports a fault. -/
def isError : Flag → Bool
  | writeDone => false
  | _ => true

theorem mem_all (f : Flag) : f ∈ all := by
  cases f <;> simp [all]

end Flag

/-- A set of status flags, one field per flag. -/
structure Status where
  writeDone : Bool := false
  writeError : Bool := false
  startUnaligned : Bool := false
  endUnaligned : Bool := false
  readUnaligned : Bool := false
deriving DecidableEq, Repr

namespace Status

/-- Whether the flag is in the set. -/
def has (s : Status) : Flag → Bool
  | .writeDone => s.writeDone
  | .writeError => s.writeError
  | .startUnaligned => s.startUnaligned
  | .endUnaligned => s.endUnaligned
  | .readUnaligned => s.readUnaligned

/-- The set of flags for which `p` holds. -/
def ofPred (p : Flag → Bool) : Status :=
  ⟨p .writeDone, p .writeError, p .startUnaligned, p .endUnaligned, p .readUnaligned⟩

@[simp]
theorem has_ofPred (p : Flag → Bool) (f : Flag) : (ofPred p).has f = p f := by
  cases f <;> rfl

@[ext]
theorem ext {s t : Status} (h : ∀ f, s.has f = t.has f) : s = t := by
  cases s; cases t
  have h0 := h .writeDone
  have h1 := h .writeError
  have h2 := h .startUnaligned
  have h3 := h .endUnaligned
  have h4 := h .readUnaligned
  simp only [has] at h0 h1 h2 h3 h4
  subst h0 h1 h2 h3 h4
  rfl

/-- The empty set. -/
def empty : Status := {}

/-- The set holding the one flag. -/
def single (f : Flag) : Status := ofPred (· == f)

/-- The flags of either set. -/
def union (s t : Status) : Status := ofPred fun f => s.has f || t.has f

/-- The flags of `s` that are not in `t`. -/
def diff (s t : Status) : Status := ofPred fun f => s.has f && !t.has f

instance : Union Status := ⟨union⟩
instance : SDiff Status := ⟨diff⟩

/-- The error flags of the set. -/
def errors (s : Status) : Status := ofPred fun f => s.has f && f.isError

/-- Whether no flag is set. -/
def isEmpty (s : Status) : Bool := Flag.all.all fun f => !s.has f

/-- Whether an error flag is set. -/
def hasErrors (s : Status) : Bool := !s.errors.isEmpty

/-- The flags of the set in bit order. -/
def flags (s : Status) : List Flag := Flag.all.filter s.has

/-- Reads a register word: bit `i` of the word sets the flag at position `i`, and the bits above
the five flags are dropped. -/
def ofBits (w : UInt32) : Status := ofPred fun f => w.toNat.testBit f.index

/-- The register word with exactly the bits of the set flags. -/
def toNat (s : Status) : Nat := s.flags.foldr (fun f acc => f.bit + acc) 0

/-- The set as a register word. -/
def toBits (s : Status) : UInt32 := s.toNat.toUInt32

/-- The text `InterruptStatus(A | B)` that names the set flags in bit order; the empty set is
written `InterruptStatus(0x0)`. -/
def describe (s : Status) : String :=
  match s.flags with
  | [] => "InterruptStatus(0x0)"
  | fs => "InterruptStatus(" ++ " | ".intercalate (fs.map Flag.name) ++ ")"

@[simp]
theorem has_ofBits (w : UInt32) (f : Flag) : (ofBits w).has f = w.toNat.testBit f.index := by
  simp [ofBits]

@[simp]
theorem has_union (s t : Status) (f : Flag) : (s ∪ t).has f = (s.has f || t.has f) :=
  has_ofPred _ f

@[simp]
theorem has_diff (s t : Status) (f : Flag) : (s \ t).has f = (s.has f && !t.has f) :=
  has_ofPred _ f

@[simp]
theorem has_errors (s : Status) (f : Flag) : s.errors.has f = (s.has f && f.isError) :=
  has_ofPred _ f

theorem toNat_lt (s : Status) : s.toNat < 32 := by
  rcases s with ⟨a, b, c, d, e⟩
  cases a <;> cases b <;> cases c <;> cases d <;> cases e <;> decide

theorem ofBits_toBits (s : Status) : ofBits s.toBits = s := by
  rcases s with ⟨a, b, c, d, e⟩
  cases a <;> cases b <;> cases c <;> cases d <;> cases e <;> decide

end Status

end PacketRing
