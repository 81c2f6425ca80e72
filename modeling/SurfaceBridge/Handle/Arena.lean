import SurfaceBridge.Handle.Packed

/-! An arena of values behind generation-checked handles. Taking a value out of its slot changes the slot's
generation, so a handle stops resolving when its value leaves and stays dead when the slot is used again. -/
namespace SurfaceBridge.Handle

structure Slot (α : Type) where
  generation : UInt32
  value : Option α
  deriving DecidableEq

/-- The slot without its value, in its next generation. -/
def Slot.retire {α : Type} (slot : Slot α) : Slot α :=
  { generation := slot.generation + 1, value := none }

/-- Slots, the indices of the vacant ones (the one to be used next first), and the number of values. -/
structure Arena (α : Type) where
  slots : Array (Slot α) := #[]
  free : List Nat := []
  live : Nat := 0
  deriving DecidableEq

namespace Arena

variable {α : Type}

/-- How many slots an arena may have; one more would pack into a word that no handle unpacks from. -/
def slotLimit : Nat := 4294967295

/-- The handle of a slot in a given generation. -/
def handle (index : Nat) (generation : UInt32) : UInt64 :=
  Packed.toWord { index := .ofNat index, generation }

/-- Stores a value and returns its handle, unless the arena is full. -/
def insert (arena : Arena α) (value : α) : Option (UInt64 × Arena α) :=
  match arena.free with
  | index :: free =>
    let generation := (arena.slots[index]?.map (·.generation)).getD 0
    some (handle index generation,
      { slots := arena.slots.modify index fun slot => { slot with value := some value }
        free := free
        live := arena.live + 1 })
  | [] =>
    if arena.slots.size < slotLimit then
      some (handle arena.slots.size 0,
        { slots := arena.slots.push { generation := 0, value := some value }
          free := []
          live := arena.live + 1 })
    else none

/-- The slot index and the value behind a word, if the word is the handle of a live value. -/
def resolve (arena : Arena α) (word : UInt64) : Option (Nat × α) := do
  let handle ← Packed.ofWord? word
  let slot ← arena.slots[handle.index.toNat]?
  if slot.generation = handle.generation then
    slot.value.map fun value => (handle.index.toNat, value)
  else none

def get? (arena : Arena α) (word : UInt64) : Option α :=
  (arena.resolve word).map (·.2)

def contains (arena : Arena α) (word : UInt64) : Bool :=
  (arena.get? word).isSome

/-- Replaces the value behind a handle; any other word changes nothing. -/
def modify (arena : Arena α) (word : UInt64) (f : α → α) : Arena α :=
  match arena.resolve word with
  | none => arena
  | some (index, value) =>
    { arena with slots := arena.slots.modify index fun slot => { slot with value := some (f value) } }

/-- Takes the value behind a handle out and retires the handle. -/
def remove? (arena : Arena α) (word : UInt64) : Option (α × Arena α) :=
  match arena.resolve word with
  | none => none
  | some (index, value) =>
    some (value,
      { slots := arena.slots.modify index Slot.retire
        free := index :: arena.free
        live := arena.live - 1 })

/-- The live values, in slot order. -/
def values (arena : Arena α) : List α := arena.slots.toList.filterMap (·.value)

/-- Takes out every value that satisfies the predicate, in slot order. -/
def drain (arena : Arena α) (p : α → Bool) : List α × Arena α :=
  let leaves (slot : Slot α) := slot.value.any p
  let drained := arena.values.filter p
  let freed := (List.range arena.slots.size).filter fun index =>
    (arena.slots[index]?).any leaves
  (drained,
    { slots := arena.slots.map fun slot => if leaves slot then slot.retire else slot
      free := freed.reverse ++ arena.free
      live := arena.live - drained.length })

end Arena
end SurfaceBridge.Handle
