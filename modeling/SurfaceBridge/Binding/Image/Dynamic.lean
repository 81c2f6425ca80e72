import SurfaceBridge.Binding.Image.Memory
import SurfaceBridge.Label

/-! What an image is linked by: entries under tags, which say where its symbols are, what it needs, and whether
it may be loaded on request. -/
namespace SurfaceBridge.Image

/-- What an entry is about. -/
inductive Tag where
  | needed
  | hashTable
  | names
  | symbols
  | ownName
  | filteredTable
  | flags
  deriving DecidableEq

namespace Tag

def number : Tag → Nat
  | needed => 1
  | hashTable => 4
  | names => 5
  | symbols => 6
  | ownName => 14
  | filteredTable => 0x6ffffef5
  | flags => 0x6ffffffb

end Tag

/-- The entries of an image, and the memory that they point into. -/
structure Dynamic where
  memory : Memory
  entries : List (Nat × Nat)

/-- The entries from an address on, up to the one that is tagged with zero. -/
private def Memory.entries (memory : Memory) : Nat → Nat → List (Nat × Nat)
  | 0, _ => []
  | count + 1, address =>
    let tag := memory.number address 8
    if tag = 0 then []
    else (tag, memory.number (address + 8) 8) :: memory.entries count (address + 16)

/-- An image has no more entries than bytes. -/
def dynamic (image : Image) : Dynamic :=
  let memory := image.memory
  { memory, entries := memory.entries image.bytes.size (image.dynamicAddress?.getD 0) }

namespace Dynamic

/-- What the entry with a tag says. The last one counts. -/
def value? (dynamic : Dynamic) (tag : Tag) : Option Nat :=
  (dynamic.entries.reverse.find? (·.1 = tag.number)).map (·.2)

/-- What keeps an image that is in memory from being used as a library. -/
def fault? (dynamic : Dynamic) : Option LoadRefusal :=
  let flags := (dynamic.value? .flags).getD 0
  if flags.testBit 27 then some .program
  else if flags.testBit 6 then some .closed
  else none

private def nameAt (dynamic : Dynamic) (offset : Nat) : List UInt8 :=
  dynamic.memory.label ((dynamic.value? .names).getD 0 + offset)

private def textAt (dynamic : Dynamic) (offset : Nat) : String := (Label.ofBytes (dynamic.nameAt offset)).text

/-- The names of the libraries that the image needs, in their order. -/
def needed (dynamic : Dynamic) : List String :=
  (dynamic.entries.filter (·.1 = Tag.needed.number)).map fun (_, offset) => dynamic.textAt offset

/-- The name that the image gives itself. -/
def ownName? (dynamic : Dynamic) : Option String := (dynamic.value? .ownName).map dynamic.textAt

/-- A symbol as the image lists it. -/
structure Symbol where
  nameOffset : Nat
  kind : Nat
  scope : Nat
  visibility : Nat
  value : Nat

private def symbol (dynamic : Dynamic) (index : Nat) : Symbol :=
  let start := (dynamic.value? .symbols).getD 0 + 24 * index
  let info := dynamic.memory.number (start + 4) 1
  { nameOffset := dynamic.memory.number start 4
    kind := info % 16
    scope := info / 16
    visibility := dynamic.memory.number (start + 5) 1 % 4
    value := dynamic.memory.number (start + 8) 8 }

namespace Symbol

/-- Whether each thread has a copy of what the symbol names. -/
def isThreaded (symbol : Symbol) : Bool := symbol.kind = 6

/-- Whether a look-up ends at the symbol: it names a place. -/
def isPlaced (symbol : Symbol) : Bool :=
  symbol.isThreaded || symbol.kind ∈ [0, 1, 2, 5, 10] && symbol.value ≠ 0

/-- Whether the symbol is there for others. -/
def isShared (symbol : Symbol) : Bool := symbol.scope ∈ [1, 2, 10] && symbol.visibility ∈ [0, 3]

/-- Where the symbol is. A thread's copy is never at null. -/
def address (symbol : Symbol) : UInt64 :=
  if symbol.isThreaded then 1 else UInt64.ofNat symbol.value

end Symbol

/-- The symbol at an index, if it is the one that a look-up of a name ends at. -/
private def match? (dynamic : Dynamic) (name : List UInt8) (index : Nat) : Option Symbol :=
  let symbol := dynamic.symbol index
  if symbol.isPlaced ∧ dynamic.nameAt symbol.nameOffset = name then some symbol else none

/-- The hash of names in the plain table. -/
def hash (name : List UInt8) : UInt32 :=
  name.foldl (fun h byte =>
    let sum := h * 16 + byte.toUInt32
    let high := sum &&& 0xf0000000
    (sum - high) ^^^ (high >>> 24)) 0

/-- Follows a chain of the plain table from an index; zero ends it. -/
private def follow (dynamic : Dynamic) (name : List UInt8) (chains : Nat) : Nat → Nat → Option Symbol
  | 0, _ => none
  | count + 1, index =>
    if index = 0 then none
    else
      match dynamic.match? name index with
      | some symbol => some symbol
      | none => dynamic.follow name chains count (dynamic.memory.number (chains + 4 * index) 4)

/-- Looks a name up in the plain table. -/
private def findPlain? (dynamic : Dynamic) (table : Nat) (name : List UInt8) : Option Symbol :=
  let word i := dynamic.memory.number (table + 4 * i) 4
  let buckets := word 0
  if buckets = 0 then none
  else
    let bucket := (hash name).toNat % buckets
    dynamic.follow name (table + 4 * (2 + buckets)) dynamic.memory.image.bytes.size (word (2 + bucket))

/-- The hash of names in the filtered table. -/
def filteredHash (name : List UInt8) : UInt32 := name.foldl (fun h byte => h * 33 + byte.toUInt32) 5381

/-- Follows a chain of the filtered table. It holds the hashes of its symbols; the lowest bit marks the end. -/
private def followFiltered (dynamic : Dynamic) (name : List UInt8) (chains : Nat) : Nat → Nat → Option Symbol
  | 0, _ => none
  | count + 1, index =>
    let word := dynamic.memory.number (chains + 4 * index) 4
    let found := if word / 2 = (filteredHash name).toNat / 2 then dynamic.match? name index else none
    match found with
    | some symbol => some symbol
    | none => if word % 2 = 1 then none else dynamic.followFiltered name chains count (index + 1)

/-- Looks a name up in the filtered table. A word of the filter has two bits for every name that is there. -/
private def findFiltered? (dynamic : Dynamic) (table : Nat) (name : List UInt8) : Option Symbol :=
  let word i := dynamic.memory.number (table + 4 * i) 4
  let buckets := word 0
  let filters := word 2
  let code := (filteredHash name).toNat
  let place := code / 64 &&& (filters + 0xffffffff) % 0x100000000
  let filter := dynamic.memory.number (table + 16 + 8 * place) 8
  let first := word (4 + 2 * filters + code % buckets)
  if buckets = 0 ∨ !(filter.testBit (code % 64) && filter.testBit ((code >>> (word 3 % 32)) % 64)) ∨ first = 0 then none
  else
    let chains := table + 4 * (4 + 2 * filters + buckets)
    dynamic.followFiltered name (distance (4 * word 1) chains) dynamic.memory.image.bytes.size first

/-- The address under a name that others see. The filtered table is preferred, and without a table nothing is
found. -/
def exported? (dynamic : Dynamic) (name : String) : Option UInt64 :=
  let name := name.toUTF8.data.toList
  let found :=
    match dynamic.value? .filteredTable with
    | some table => dynamic.findFiltered? table name
    | none => (dynamic.value? .hashTable).bind (dynamic.findPlain? · name)
  (found.filter (·.isShared)).map (·.address)

end Dynamic

/-- Why the image is not loaded. -/
def fault? (image : Image) : Option LoadRefusal :=
  image.formFault? <|> image.layout?.bind (·.fault?) <|> image.dynamic.fault?

end SurfaceBridge.Image
