import SurfaceBridge.Binding.Refusal

/-! Shared objects as bytes: the header, and the segments that it lists. -/
namespace SurfaceBridge

/-- The content of a library file. -/
structure Image where
  bytes : ByteArray

namespace Image

/-- The least length of a file that is looked at as a library. -/
def headerSize : Nat := 64

/-- The number that so many bytes spell, the low one first. -/
def numberOf (byteAt : Nat → UInt8) (place count : Nat) : Nat :=
  (List.range count).foldr (fun i n => n * 256 + (byteAt (place + i)).toNat) 0

/-- A byte of the file; there are only zeros after the end. -/
def byte (image : Image) (offset : Nat) : UInt8 := image.bytes.data[offset]?.getD 0

def number (image : Image) (offset count : Nat) : Nat := numberOf image.byte offset count

/-- What every image begins with, as a number. -/
def signature : Nat := 0x464c457f

/-- The number of the machine that images are for. -/
def machine : Nat := 62

def isForMachine (image : Image) : Bool := image.number 0x12 2 = machine

/-- What is wrong with the marks that follow the signature. Of the two systems that are known, the one with
extensions numbers them up to three. -/
private def markFault? (image : Image) : Option LoadRefusal :=
  let system := image.number 7 1
  if image.number 5 1 ≠ 1 then some .byteOrder
  else if image.number 6 1 ≠ 1 then some .identVersion
  else if system ≠ 0 ∧ system ≠ 3 then some .system
  else if image.number 8 1 > (if system = 3 then 3 else 0) then some .systemVersion
  else if image.number 9 7 ≠ 0 then some .padding
  else none

/-- What is wrong with the header. Whether the image is for this machine is asked before the marks are looked
at one by one, but after the version when they are right. -/
private def headerFault? (image : Image) : Option LoadRefusal :=
  if image.bytes.size < headerSize then some .tooShort
  else if image.number 0 4 ≠ signature then some .notImage
  else if image.number 4 1 ≠ 2 then some .otherClass
  else
    match image.markFault? with
    | some fault => some (if image.isForMachine then fault else .otherMachine)
    | none =>
      if image.number 0x14 4 ≠ 1 then some .version
      else if !image.isForMachine then some .otherMachine
      else if image.number 0x10 2 ≠ 2 ∧ image.number 0x10 2 ≠ 3 then some .kind
      else if image.number 0x36 2 ≠ 0x38 then some .entrySize
      else none

/-- A stretch of the file and the addresses that it is meant for. -/
structure Segment where
  kind : Nat
  flags : Nat
  offset : Nat
  address : Nat
  fileSize : Nat
  memorySize : Nat
  alignment : Nat

def segments (image : Image) : List Segment :=
  (List.range (image.number 0x38 2)).map fun i =>
    let start := image.number 0x20 8 + i * 0x38
    { kind := image.number start 4
      flags := image.number (start + 4) 4
      offset := image.number (start + 8) 8
      address := image.number (start + 0x10) 8
      fileSize := image.number (start + 0x20) 8
      memorySize := image.number (start + 0x28) 8
      alignment := image.number (start + 0x30) 8 }

/-- The segments that memory is made of. -/
def loaded (image : Image) : List Segment := image.segments.filter (·.kind = 1)

/-- How much of a file is read at first. -/
def firstRead : Nat := 832

def pageSize : Nat := 4096

/-- No file has places from here on. -/
def fileLimit : Nat := 0x8000000000000000

/-- Why the list of segments cannot be read. What was read at first is not read again, and ends are counted
in 64 bits. -/
private def listFault? (image : Image) : Option LoadRefusal :=
  let start := image.number 0x20 8
  let length := image.number 0x38 2 * 0x38
  if (UInt64.ofNat (start + length)).toNat ≤ min image.bytes.size firstRead then none
  else if start + length ≥ fileLimit then some .badOffset
  else if length ≠ 0 ∧ start + length > image.bytes.size then some .unreadable
  else none

/-- Where the image says how it is linked: the last segment for that which is not empty. -/
def dynamicAddress? (image : Image) : Option Nat :=
  ((image.segments.filter fun part => part.kind = 2 && part.fileSize ≠ 0).getLast?).map (·.address)

/-- What is wrong with the segments: those that are loaded lie on pages as they lie in the file, there is one
of them, and there is something to link by. -/
private def segmentFault? (image : Image) : Option LoadRefusal :=
  if image.loaded.any fun part => part.address % pageSize ≠ part.offset % pageSize then some .unaligned
  else if image.loaded.isEmpty then some .noSegments
  else if image.number 0x10 2 ≠ 3 then some .executable
  else if image.segments.any (fun part => part.kind = 2 && part.fileSize = 0) ∨
    image.dynamicAddress?.getD 0 = 0 then some .noDynamicPart
  else none

/-- What keeps the image from being laid out in memory at all. -/
def formFault? (image : Image) : Option LoadRefusal :=
  image.headerFault? <|> image.listFault? <|> image.segmentFault?

end Image
end SurfaceBridge
