/-!
# Hexadecimal text

Addresses in messages are written in lowercase hexadecimal after `0x`, with no leading zeros
(zero is `0x0`); byte strings are written as two lowercase digits per byte, most significant
digit first.

Main definitions: `Hex.ofNat` and `Hex.ofBytes`.
-/

namespace PacketRing.Hex

/-- The lowercase digit of a value below sixteen. -/
def digit (d : Nat) : Char := Nat.digitChar d

/-- `0x` followed by the lowercase hexadecimal digits of `n`, without leading zeros. -/
def ofNat (n : Nat) : String := "0x" ++ String.ofList (Nat.toDigits 16 n)

/-- The two digits of one byte. -/
def byteDigits (b : UInt8) : List Char := [digit (b.toNat / 16), digit (b.toNat % 16)]

/-- Two lowercase digits per byte, in the order of the bytes. -/
def ofBytes (bytes : ByteArray) : String := String.ofList (bytes.toList.flatMap byteDigits)

theorem length_byteDigits (b : UInt8) : (byteDigits b).length = 2 := rfl

end PacketRing.Hex
