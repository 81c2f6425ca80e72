import SurfaceBridge.Environment

/-! A scratch directory: a few files, a catalogue of stand-in libraries, and names that the system's library
search finds. Around it there are the directories that every system has. Nothing else can be read or loaded. -/
namespace SurfaceBridge.Bench

/-- Files and directories by their paths from the root; a directory that holds one of them is there, too. -/
abbrev Tree := List (String × FileNode)

namespace Tree

def at? (tree : Tree) (place : List String) : Option FileNode :=
  let path := "/".intercalate place
  match tree.find? (·.1 = path) with
  | some (_, node) => some node
  | none =>
    if place.isEmpty ∨ tree.any (·.1.startsWith (path ++ "/")) then some .directory else none

def nameLimit : Nat := 255

/-- Follows the steps of a path from a directory: where it ends, and what is there. The root is above itself. -/
def walk (tree : Tree) (place : List String) : List String → Except FileError (List String × FileNode)
  | [] =>
    match tree.at? place with
    | some node => .ok (place, node)
    | none => .error .notFound
  | step :: rest =>
    match tree.at? place with
    | none => .error .notFound
    | some (.file _) | some (.unreadable _) => .error .notDirectory
    | some .directory =>
      if step = "" ∨ step = "." then tree.walk place rest
      else if step = ".." then tree.walk place.dropLast rest
      else if step.utf8ByteSize > nameLimit then .error .nameTooLong
      else tree.walk (place ++ [step]) rest

end Tree

structure Scratch where
  configVariable : Option (List UInt8) := none
  tree : Tree := []
  /-- What the system's search finds: a name, and the file in the catalogue. -/
  system : List (String × String) := []

namespace Scratch

private def hexDigit (c : Char) : Option Nat :=
  if '0' ≤ c ∧ c ≤ '9' then some (c.toNat - '0'.toNat)
  else if 'a' ≤ c ∧ c ≤ 'f' then some (c.toNat - 'a'.toNat + 10)
  else none

/-- A library that exports the symbols whose bits are set, counted in the order of look-up. -/
def exporting (mask : Nat) : LibraryPart where
  symbols symbol := if mask.testBit (RequiredSymbol.all.idxOf symbol) then some 1 else none

/-- A library that exports everything, one symbol as null. -/
def withNull : LibraryPart where
  symbols symbol := if symbol = .destroyInstance then some 0 else some 1

/-- The libraries of the catalogue, by their files. -/
def loadable (file : String) : Option LibraryPart :=
  match file.toList with
  | ['f', 'a', 'k', 'e', '-', high, low, '.', 's', 'o'] => do
    let high ← hexDigit high
    let low ← hexDigit low
    if high < 8 then some (exporting (16 * high + low)) else none
  | _ => if file = "fake-null.so" then some withNull else none

/-- The directory of the catalogue. -/
def catalogue : String := "libs"

/-- The catalogue as files, with those that do not load. A library is no text. -/
def catalogueTree : Tree :=
  let image := FileNode.file [0x7f, 0xff]
  let fakes := (List.range 0x80).map fun mask => ("fake-" ++ Text.hexByte mask.toUInt8 ++ ".so", image)
  let others := [("fake-null.so", image), ("empty.so", .file []),
    ("text.so", .file (List.replicate Image.headerSize 0x2e)), ("dir.so", .directory)]
  (fakes ++ others).map fun (file, node) => (catalogue ++ "/" ++ file, node)

/-- The directory that the search for a library looks into. -/
def searched : String := "sys"

/-- The names that the search finds, as files in its directory. -/
def searchedTree (scratch : Scratch) : Tree :=
  (searched, .directory) :: scratch.system.filterMap fun (name, file) =>
    (catalogueTree.at? [catalogue, file]).map fun node => (searched ++ "/" ++ name, node)

/-- The scratch directory's own name; no path can spell it. -/
def ownName : String := "\x00"

/-- The place of the scratch directory. -/
def home : List String := ["tmp", ownName]

/-- What every system has. -/
def outside : Tree :=
  ("dev/null", .file []) ::
    ["bin", "boot", "etc", "home", "lib", "media", "mnt", "opt", "proc", "root", "run", "sbin", "srv", "sys",
      "tmp", "usr", "var"].map (·, .directory)

/-- All files and directories that are known. -/
def known (scratch : Scratch) : Tree :=
  outside ++ (scratch.tree ++ catalogueTree ++ scratch.searchedTree).map fun (path, node) =>
    ("/".intercalate (home ++ [path]), node)

def pathLimit : Nat := 4096

/-- Follows a path from the scratch directory. -/
def locate (scratch : Scratch) (path : String) : Except FileError (List String × FileNode) :=
  let steps := (path.toList.splitOnP (· = '/')).map String.ofList
  if '\x00' ∈ path.toList then .error .zeroInPath
  else if path.utf8ByteSize ≥ pathLimit then .error .nameTooLong
  else if path.isEmpty then .error .notFound
  else scratch.known.walk (if path.startsWith "/" then [] else home) steps

/-- The file of the catalogue that stands at a place. -/
def catalogued? (scratch : Scratch) (place : List String) : Option String :=
  match place.drop home.length with
  | [directory, name] =>
    if directory = catalogue then some name
    else if directory = searched then (scratch.system.find? (·.1 = name)).map (·.2)
    else none
  | _ => none

/-- What loading the file at a place gives. -/
private def load (scratch : Scratch) (place : List String) (node : FileNode) : Except LoadRefusal LibraryPart :=
  match (scratch.catalogued? place).bind loadable with
  | some library => .ok library
  | none => node.library

/-- What the program itself is made of; the empty name stands for all of it. -/
def resident : List String :=
  ["", "ld-linux-x86-64.so.2", "libc.so.6", "libgcc_s.so.1", "linux-vdso.so.1"]

/-- Libraries that every system has. The search comes to them last. -/
def standard : List String :=
  ["libanl.so.1", "libBrokenLocale.so.1", "libdl.so.2", "libm.so.6", "libpthread.so.0", "libresolv.so.2",
    "librt.so.1", "libutil.so.1"]

/-- A library that none of the entry points is in. -/
def unrelated : LibraryPart where
  symbols _ := none

/-- The library of a name, by itself. A name with a slash is a path, and any other is searched for. -/
def openPart (scratch : Scratch) (name : String) : Except String LibraryPart :=
  if name ∈ resident then .ok unrelated
  else
    let path := if '/' ∈ name.toList then name else searched ++ "/" ++ name
    match scratch.locate path with
    | .error reason => if name ∈ standard then .ok unrelated else .error (name ++ ": " ++ reason.loaderText)
    | .ok (place, node) =>
      match scratch.load place node with
      | .ok part => .ok part
      | .error refusal =>
        if refusal.isForeign ∧ name ∈ standard then .ok unrelated else .error (refusal.report name path)

/-- The library of a name, with what it needs. -/
def openNamed (scratch : Scratch) (name : String) : Except String Library :=
  Id.run (LibraryPart.link (fun name => pure (scratch.openPart name)) name)

/-- One zero at the end of a name is not part of it, and no other may be in it. -/
def openLibrary (scratch : Scratch) (name : String) : Except String Library :=
  let cs := name.toList
  if cs.getLast? = some '\x00' then
    if '\x00' ∈ cs.dropLast then .error "could not create a C string from bytes with trailing null"
    else scratch.openNamed (String.ofList cs.dropLast)
  else if '\x00' ∈ cs then .error "could not create a C string from bytes"
  else scratch.openNamed name

def environment (scratch : Scratch) : Environment where
  configVariable := scratch.configVariable
  lookup path := (·.2) <$> scratch.locate path
  openLibrary := scratch.openLibrary

end Scratch
end SurfaceBridge.Bench
