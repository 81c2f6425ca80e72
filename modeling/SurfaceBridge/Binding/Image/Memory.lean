import SurfaceBridge.Binding.Image

/-! The memory that the loaded segments of an image make up: whether there is room for them, and what lies at
an address. Addresses have 64 bits and wrap around. -/
namespace SurfaceBridge.Image

/-- How many addresses there are. -/
def addresses : Nat := 0x10000000000000000

/-- How far an address is above another one. -/
def distance (low high : Nat) : Nat := (high + addresses - low) % addresses

def pageDown (place : Nat) : Nat := place / pageSize * pageSize

def pageUp (place : Nat) : Nat := pageDown (place + (pageSize - 1)) % addresses

namespace Segment

def start (part : Segment) : Nat := pageDown part.address

/-- Where the bytes from the file end. -/
def dataEnd (part : Segment) : Nat := (part.address + part.fileSize) % addresses

/-- Where the segment ends, with the zeros after its bytes. -/
def fullEnd (part : Segment) : Nat := (part.address + part.memorySize) % addresses

def isWritable (part : Segment) : Bool := part.flags / 2 % 2 = 1

/-- How many bytes from the file are mapped, in whole pages. -/
def mappedSize (part : Segment) : Nat := pageUp part.dataEnd - part.start

end Segment

/-- The greatest gap that a program's memory leaves for images. -/
def gap : Nat := 0x555555544000

/-- Less than so much can be writable at once. -/
def writableLimit : Nat := 0x7c0000000

/-- Images lie below this address. -/
def ceiling : Nat := 0x7ff000000000

/-- Nothing can be mapped from here on. -/
def memoryEnd : Nat := 0x7ffffffff000

def hasRoom (size : Nat) : Bool := size ≠ 0 && pageUp size ≠ 0 && pageUp size ≤ gap

/-- Whether so much of the file can be mapped from where the segment begins. -/
private def Segment.canMap (part : Segment) (size : Nat) : Bool :=
  (!part.isWritable || size < writableLimit) && pageDown part.offset + pageUp size < fileLimit

/-- Where the segments lie, and how much memory they are given at first. -/
structure Layout where
  first : Segment
  others : List Segment

namespace Layout

def parts (layout : Layout) : List Segment := layout.first :: layout.others

def last (layout : Layout) : Segment := layout.others.getLast?.getD layout.first

def size (layout : Layout) : Nat := distance layout.first.start layout.last.fullEnd

/-- The greatest alignment that is asked for; only powers of two count. -/
def alignment (layout : Layout) : Nat :=
  (layout.parts.map (·.alignment)).foldl (fun m n => if n &&& (n - 1) = 0 then max m n else m) 0

/-- More than the size is reserved when pages do not give the alignment. -/
def reserved (layout : Layout) : Nat :=
  if layout.alignment ≤ pageSize then layout.size
  else (if layout.alignment ≤ layout.size then layout.size + layout.alignment else 2 * layout.alignment) %
    addresses

/-- Whether a segment does not begin where the one before it ends. -/
def hasHoles (layout : Layout) : Bool :=
  (layout.parts.zip layout.others).any fun (before, after) => pageUp before.dataEnd ≠ after.start

/-- Where an address of the image comes to lie. -/
def place (layout : Layout) (address : Nat) : Nat :=
  distance layout.size (ceiling + distance layout.first.start address)

/-- What goes wrong as the bytes of a segment are mapped. -/
private def mappingFault? (layout : Layout) (part : Segment) : Option LoadRefusal :=
  let size := part.mappedSize
  if size = 0 ∨ (layout.place part.start + size ≤ memoryEnd ∧ part.canMap size) then none else some .unmapped

/-- What goes wrong as the pages after the bytes of a segment are filled with zeros. -/
private def fillingFault? (layout : Layout) (part : Segment) : Option LoadRefusal :=
  let start := layout.place (pageUp part.dataEnd)
  let stop := if part.dataEnd < part.fullEnd then layout.place part.fullEnd else start
  if stop ≤ start ∨ (stop ≤ memoryEnd ∧ (part.isWritable → stop - start < writableLimit)) then none
  else some .unfilled

/-- Whether the pages between the first segment and the last one are not all there. -/
private def isOpen (layout : Layout) : Bool :=
  let start := pageUp layout.first.dataEnd
  start ≠ layout.last.start &&
    (start < layout.first.start || distance layout.first.start layout.last.start > pageUp layout.size)

/-- Why the segments do not get into memory. The first one is mapped as long as all of them. -/
def fault? (layout : Layout) : Option LoadRefusal :=
  if !(hasRoom layout.reserved && hasRoom layout.size && layout.first.canMap layout.size) then some .unmapped
  else if layout.hasHoles ∧ layout.last.start < pageUp layout.first.dataEnd then some .unaligned
  else if layout.hasHoles ∧ layout.isOpen then some .unprotected
  else
    layout.fillingFault? layout.first <|>
      layout.others.findSome? fun part => layout.mappingFault? part <|> layout.fillingFault? part

end Layout

def layout? (image : Image) : Option Layout :=
  match image.loaded with
  | [] => none
  | first :: others => some { first, others }

/-- The memory of an image whose segments are in their places. -/
structure Memory where
  image : Image
  /-- The segments, the last one first: it lies over the others. -/
  parts : List Segment

def memory (image : Image) : Memory := { image, parts := image.loaded.reverse }

/-- What a segment leaves at an address: zeros after its bytes, and the file's bytes on the rest of its
pages. -/
private def Segment.byte? (part : Segment) (image : Image) (address : Nat) : Option UInt8 :=
  if address < part.start ∨ max (pageUp part.dataEnd) (pageUp part.fullEnd) ≤ address then none
  else if part.dataEnd ≤ address ∧ (address < part.fullEnd ∨ pageUp part.dataEnd ≤ address) then some 0
  else some (image.byte (pageDown part.offset + (address - part.start)))

/-- The byte at an address. Where nothing lies, zeros are read. -/
def Memory.byte (memory : Memory) (address : Nat) : UInt8 :=
  (memory.parts.findSome? (·.byte? memory.image address)).getD 0

def Memory.number (memory : Memory) (address count : Nat) : Nat := numberOf memory.byte address count

/-- The bytes from an address up to a zero, and at most as many as the file has. -/
def Memory.label (memory : Memory) (address : Nat) : List UInt8 :=
  go memory.image.bytes.size address
where
  go : Nat → Nat → List UInt8
    | 0, _ => []
    | count + 1, address =>
      let byte := memory.byte address
      if byte = 0 then [] else byte :: go count (address + 1)

end SurfaceBridge.Image
