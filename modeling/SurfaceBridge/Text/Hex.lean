/-! Words written in hexadecimal, as every handle in a message is. -/
namespace SurfaceBridge.Text

/-- Lower-case hexadecimal with the mark `0x` and no padding. -/
def hex (word : UInt64) : String := "0x" ++ String.ofList (Nat.toDigits 16 word.toNat)

/-- One byte in two lower-case hexadecimal digits. -/
def hexByte (byte : UInt8) : String :=
  String.ofList ((Nat.toDigits 16 (byte.toNat / 16)) ++ Nat.toDigits 16 (byte.toNat % 16))

end SurfaceBridge.Text
