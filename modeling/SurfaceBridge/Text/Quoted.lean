import SurfaceBridge.Text.Hex
import SurfaceBridge.Text.Hidden
import SurfaceBridge.Text.Utf8

/-! Quoted forms of byte strings and of text. Both stand between double quotes and escape the quote, the
backslash and what cannot be shown; they differ in how they write the ASCII controls. -/
namespace SurfaceBridge.Text

/-- A character by its number, in hexadecimal between braces. -/
def byNumber (c : Char) : String :=
  "\\u\x7b" ++ String.ofList (Nat.toDigits 16 c.toNat) ++ "\x7d"

/-- A byte outside any character, and an ASCII control in a byte string. -/
def byByte (byte : UInt8) : String := "\\x" ++ hexByte byte

private def quotedSegment : Segment → String
  | .stray byte => byByte byte
  | .char c =>
    match c with
    | '\t' => "\\t"
    | '\n' => "\\n"
    | '\r' => "\\r"
    | '"' => "\\\""
    | '\'' => "\\'"
    | '\\' => "\\\\"
    | c =>
      if c.toNat < 0x20 || c.toNat == 0x7f then byByte c.toNat.toUInt8
      else if isHidden c then byNumber c
      else c.toString

/-- Bytes between quotes: the characters they encode, and the other bytes by number. -/
def quotedBytes (bytes : List UInt8) : String :=
  "\"" ++ String.join ((segments bytes).map quotedSegment) ++ "\""

private def quotedChar (c : Char) : String :=
  match c with
  | '\x00' => "\\0"
  | '\t' => "\\t"
  | '\n' => "\\n"
  | '\r' => "\\r"
  | '"' => "\\\""
  | '\\' => "\\\\"
  | c => if isHidden c then byNumber c else c.toString

/-- Text between quotes. -/
def quotedText (text : String) : String :=
  "\"" ++ String.join (text.toList.map quotedChar) ++ "\""

end SurfaceBridge.Text
