import SurfaceBridge.Code.Result

/-! Answers to questions for a count or for an array. -/
namespace SurfaceBridge

inductive Enumeration where
  /-- Every element was reported; the count written or available. -/
  | complete (count : UInt32)
  /-- The buffer was too short; the count written. -/
  | incomplete (count : UInt32)
  deriving DecidableEq

namespace Enumeration

def count : Enumeration → UInt32
  | complete n | incomplete n => n

def code : Enumeration → ResultCode
  | complete _ => .success
  | incomplete _ => .incomplete

def text : Enumeration → String
  | complete n => s!"Complete({n})"
  | incomplete n => s!"Incomplete({n})"

end Enumeration
end SurfaceBridge
