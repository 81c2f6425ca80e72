import SurfaceBridge.Translation
import Mathlib.Data.List.Forall2

/-! Instance descriptors as they lie in memory, and the translation as it works there: a walk along the chain of
structures, and a pass over the pointers to names that keeps every pointer but those it replaces. What a descriptor
denotes is its content. -/
namespace SurfaceBridge

/-- What a loop returns if it ends. -/
def loop {α β : Type} [Nonempty β] (turn : α → α ⊕ β) (state : α) : Option β :=
  repeatM (fun state => some (turn state)) state

section Loop

variable {α β : Type} [Nonempty β] {turn : α → α ⊕ β} {state next : α} {result : β}

theorem loop_of_inr (ends : turn state = .inr result) : loop turn state = some result := by
  rw [loop, repeatM_eq_of_monadTail, repeatM.body, ends]
  rfl

theorem loop_of_inl (goes : turn state = .inl next) : loop turn state = loop turn next := by
  rw [loop, repeatM_eq_of_monadTail, repeatM.body, goes]
  rfl

end Loop

abbrev Address := UInt64

/-- From the address on there are these bytes, none of them zero, and then a zero. -/
def Spells (byte : Address → UInt8) (address : Address) : List UInt8 → Prop
  | [] => byte address = 0
  | first :: rest => first ≠ 0 ∧ byte address = first ∧ Spells byte (address + 1) rest

instance Spells.decidable (byte : Address → UInt8) : ∀ address bytes, Decidable (Spells byte address bytes)
  | address, [] => inferInstanceAs (Decidable (byte address = 0))
  | address, first :: rest =>
    have := Spells.decidable byte (address + 1) rest
    inferInstanceAs (Decidable (first ≠ 0 ∧ byte address = first ∧ Spells byte (address + 1) rest))

/-- The memory of the process, as the parts of a descriptor are read from it. -/
structure HostMemory where
  byte : Address → UInt8
  /-- The type of a chained structure, and the address of the one after it. -/
  header : Address → StructureType × Address
  application : Address → Application
  /-- Where the driver keeps a name of its own. -/
  own : Label → Address
  own_spells : ∀ pair ∈ Extension.substitutions, Spells byte (own pair.2) pair.2.bytes

/-- A descriptor with its pointers. A list of names is null, or the pointers that lie there. -/
structure RawInstanceInfo where
  type : StructureType
  next : Address
  flags : UInt32
  application : Address
  layerCount : UInt32
  layers : Option (List Address)
  extensionCount : UInt32
  extensions : Option (List Address)

/-- A rewritten descriptor, which owns its list of pointers to names. -/
structure OwnedInstanceInfo where
  type : StructureType
  flags : UInt32
  application : Address
  extensionCount : UInt32
  names : List Address
  dropped : List StructureType
  substitutions : Nat

/-- The descriptor that is handed on. -/
def OwnedInstanceInfo.raw (owned : OwnedInstanceInfo) : RawInstanceInfo where
  type := owned.type
  next := 0
  flags := owned.flags
  application := owned.application
  layerCount := 0
  layers := none
  extensionCount := owned.extensionCount
  extensions := if owned.names.isEmpty then none else some owned.names

/-- A name that was found in memory. -/
structure BorrowedName where
  address : Address
  label : Label

/-- Both names take the same bytes of memory. -/
def BorrowedName.SamePlace (name other : BorrowedName) : Prop :=
  name.address = other.address ∧ name.label.bytes.length = other.label.bytes.length

instance (name other : BorrowedName) : Decidable (name.SamePlace other) :=
  inferInstanceAs (Decidable (_ ∧ _))

namespace HostMemory

variable (memory : HostMemory)

/-- The label is spelled at the address. -/
abbrev HasName (address : Address) (label : Label) : Prop := Spells memory.byte address label.bytes

/-- One turn of reading bytes up to a zero. -/
def readTurn : Address × List UInt8 → (Address × List UInt8) ⊕ List UInt8
  | (address, bytes) =>
    if memory.byte address = 0 then .inr bytes
    else .inl (address + 1, bytes ++ [memory.byte address])

/-- The bytes from the address up to a zero. -/
def cstring (address : Address) : Option (List UInt8) := loop memory.readTurn (address, [])

def name? (address : Address) : Option BorrowedName := do
  let bytes ← memory.cstring address
  return { address, label := .ofBytes bytes }

/-- The driver's own name for what it replaces, and any other name as it is. -/
def nativeName (name : BorrowedName) : BorrowedName :=
  match Extension.substitutions.find? (·.1 = name.label) with
  | some (_, native) => { address := memory.own native, label := native }
  | none => name

/-- One turn of the walk along the chain: it takes down the structure's type, and warns of it. -/
def walkTurn : Address × List StructureType × List Notice →
    (Address × List StructureType × List Notice) ⊕ (List StructureType × List Notice)
  | (next, types, log) =>
    if next = 0 then .inr (types, log)
    else
      let (type, after) := memory.header next
      .inl (after, types ++ [type], log ++ [.chainDropped type])

def walkChain (next : Address) : Option (List StructureType × List Notice) :=
  loop memory.walkTurn (next, [], [])

/-- Appends the native names of the names that are left, and counts those that lie elsewhere. -/
def substitute : List Address → List Address → Nat → Option (List Address × Nat)
  | [], natives, replaced => some (natives, replaced)
  | address :: rest, natives, replaced => do
    let name ← memory.name? address
    let native := memory.nativeName name
    substitute rest (natives ++ [native.address])
      (if native.SamePlace name then replaced else replaced + 1)

/-- The pointers to the native names, and how many of them are new. The list is not read if it has no names. -/
def nativeNames (raw : RawInstanceInfo) : Option (List Address × Nat) :=
  if 0 < raw.extensionCount then memory.substitute (raw.extensions.getD []) [] 0 else some ([], 0)

/-- The rewritten descriptor, and the warnings on the way. -/
def translate (raw : RawInstanceInfo) : Option (OwnedInstanceInfo × List Notice) := do
  let (dropped, log) ← memory.walkChain raw.next
  let (names, substitutions) ← memory.nativeNames raw
  return ({ raw with names, dropped, substitutions }, log)

/-- Along the chain that starts at the address there are structures of these types, and then it ends. -/
def Chain (address : Address) : List StructureType → Prop
  | [] => address = 0
  | type :: rest => address ≠ 0 ∧ (memory.header address).1 = type ∧ Chain (memory.header address).2 rest

/-- What a list of so many pointers to names denotes; a null list has none. -/
def Lists (count : UInt32) : Option (List Address) → Option (List Label) → Prop
  | none, none => count = 0
  | some addresses, some labels =>
    addresses.length = count.toNat ∧ List.Forall₂ memory.HasName addresses labels
  | _, _ => False

/-- The content of a descriptor. -/
structure Denotes (raw : RawInstanceInfo) (info : InstanceInfo) : Prop where
  type : info.type = raw.type
  flags : info.flags = raw.flags
  application : info.application =
    if raw.application = 0 then none else some (memory.application raw.application)
  chain : memory.Chain raw.next info.chain
  layers : memory.Lists raw.layerCount raw.layers info.layers
  extensions : memory.Lists raw.extensionCount raw.extensions info.extensions

/-- The pointers to the native names of names at these addresses. -/
def nativeAddresses (addresses : List Address) (labels : List Label) : List Address :=
  List.zipWith (fun address label => (memory.nativeName ⟨address, label⟩).address) addresses labels

end HostMemory

/-- A descriptor that is handed on for another one with the given names: without chain and layers, and otherwise
with the pointers of the other one, but for the names that are replaced. -/
structure RawInstanceInfo.Rewrites (memory : HostMemory) (handed raw : RawInstanceInfo) (names : List Label) :
    Prop where
  type : handed.type = raw.type
  flags : handed.flags = raw.flags
  application : handed.application = raw.application
  next : handed.next = 0
  layerCount : handed.layerCount = 0
  layers : handed.layers = none
  extensionCount : handed.extensionCount = raw.extensionCount
  extensions : handed.extensions = none ↔ raw.extensionCount = 0
  pointers : ∀ (k : Nat) address name, (raw.extensions.getD [])[k]? = some address → names[k]? = some name →
    (handed.extensions.getD [])[k]? =
      some (if name = Extension.win32Surface then memory.own Extension.xlibSurface else address)

end SurfaceBridge
