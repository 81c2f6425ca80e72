/-! Handles packed into one word: the generation in the high half, the slot's index plus one in the low half.
The null word therefore names no slot. -/
namespace SurfaceBridge.Handle

/-- A handle taken apart. -/
structure Packed where
  index : UInt32
  generation : UInt32
  deriving DecidableEq

namespace Packed

def toWord (handle : Packed) : UInt64 :=
  (handle.generation.toUInt64 <<< 32) ||| (handle.index.toUInt64 + 1)

/-- The handle in a word; a word whose low half is zero holds none. -/
def ofWord? (word : UInt64) : Option Packed :=
  let slot := (word &&& 0xffffffff).toUInt32
  if slot = 0 then none
  else some { index := slot - 1, generation := (word >>> 32).toUInt32 }

end Packed
end SurfaceBridge.Handle
