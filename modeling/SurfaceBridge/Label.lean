import SurfaceBridge.Text.Quoted

/-! Labels: the names that cross the binary interface as bytes up to a terminating zero. -/
namespace SurfaceBridge

/-- A name as bytes, none of them zero. -/
structure Label where
  bytes : List UInt8
  terminated : 0 ∉ bytes
  deriving DecidableEq

namespace Label

/-- What a reader finds in bytes that a zero follows: everything before the first zero. -/
def ofBytes (bytes : List UInt8) : Label where
  bytes := bytes.takeWhile (· ≠ 0)
  terminated := by
    intro h
    have := List.all_takeWhile (p := (· ≠ (0 : UInt8))) (l := bytes)
    rw [List.all_eq_true] at this
    simpa using this 0 h

/-- The label of a text in UTF-8, cut at its first zero character. -/
def ofText (text : String) : Label := ofBytes text.toUTF8.data.toList

/-- The bytes read as UTF-8; bytes outside any character become the replacement character. -/
def text (label : Label) : String :=
  String.ofList ((Text.segments label.bytes).map fun
    | .char c => c
    | .stray _ => '\ufffd')

/-- The quoted form used in messages. -/
def quoted (label : Label) : String := Text.quotedBytes label.bytes

@[simp] theorem ofBytes_bytes (label : Label) : ofBytes label.bytes = label := by
  obtain ⟨bytes, terminated⟩ := label
  simp only [ofBytes, mk.injEq]
  induction bytes with
  | nil => rfl
  | cons b rest ih =>
    simp only [List.mem_cons, not_or] at terminated
    rw [List.takeWhile_cons, if_pos (by simp [Ne.symm terminated.1]), ih terminated.2]

end Label
end SurfaceBridge
