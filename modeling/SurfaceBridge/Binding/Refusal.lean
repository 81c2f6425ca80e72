/-! Why a file is not read, why a library's file is refused, and how that is said. -/
namespace SurfaceBridge

/-- Why a path leads to nothing, or why what it leads to cannot be read. -/
inductive FileError where
  | notFound
  | notDirectory
  | isDirectory
  | permissionDenied
  | nameTooLong
  | zeroInPath
  | other (reason : String)
  deriving DecidableEq

namespace FileError

def text : FileError → String
  | notFound => "No such file or directory (os error 2)"
  | notDirectory => "Not a directory (os error 20)"
  | isDirectory => "Is a directory (os error 21)"
  | permissionDenied => "Permission denied (os error 13)"
  | nameTooLong => "File name too long (os error 36)"
  | zeroInPath => "file name contained an unexpected NUL byte"
  | other reason => reason

/-- The reason of a loader that cannot open a library's file. -/
def loaderText : FileError → String
  | notDirectory => "cannot open shared object file: Not a directory"
  | permissionDenied => "cannot open shared object file: Permission denied"
  | nameTooLong => "cannot open shared object file: File name too long"
  | other reason => "cannot open shared object file: " ++ reason
  | _ => "cannot open shared object file: No such file or directory"

end FileError

/-- Why the loader refuses a file. -/
inductive LoadRefusal where
  | unopened (reason : FileError)
  | directory
  | tooShort
  | notImage
  | otherClass
  | otherMachine
  | byteOrder
  | identVersion
  | system
  | systemVersion
  | padding
  | version
  | kind
  | entrySize
  | unreadable
  | badOffset
  | unaligned
  | noSegments
  | executable
  | noDynamicPart
  | unmapped
  | unprotected
  | unfilled
  | program
  | closed
  deriving DecidableEq

namespace LoadRefusal

def message : LoadRefusal → String
  | unopened reason => reason.loaderText
  | directory => "cannot read file data: Is a directory"
  | tooShort => "file too short"
  | notImage => "invalid ELF header"
  | otherClass => "wrong ELF class: ELFCLASS32"
  | otherMachine => "cannot open shared object file: No such file or directory"
  | byteOrder => "ELF file data encoding not little-endian"
  | identVersion => "ELF file version ident does not match current one"
  | system => "ELF file OS ABI invalid"
  | systemVersion => "ELF file ABI version invalid"
  | padding => "nonzero padding in e_ident"
  | version => "ELF file version does not match current one"
  | kind => "only ET_DYN and ET_EXEC can be loaded"
  | entrySize => "ELF file's phentsize not the expected size"
  | unreadable => "cannot read file data"
  | badOffset => "cannot read file data: Invalid argument"
  | unaligned => "ELF load command address/offset not page-aligned"
  | noSegments => "object file has no loadable segments"
  | executable => "cannot dynamically load executable"
  | noDynamicPart => "object file has no dynamic section"
  | unmapped => "failed to map segment from shared object"
  | unprotected => "cannot change memory protections"
  | unfilled => "cannot map zero-fill pages"
  | program => "cannot dynamically load position-independent executable"
  | closed => "shared object cannot be dlopen()ed"

/-- Whether the file is one for another machine. A search passes it over. -/
def isForeign (refusal : LoadRefusal) : Bool := refusal = otherClass || refusal = otherMachine

/-- Whether the header of a file that is for this machine is at fault, or the file cannot be read so far. -/
def isOfHeader : LoadRefusal → Bool
  | directory | tooShort | notImage | byteOrder | identVersion | system | systemVersion | padding | version
  | kind | entrySize | unreadable | badOffset => true
  | _ => false

/-- What is said of a name that led to a refused file. The file's path stands for the name as long as the
header is looked at. -/
def report (refusal : LoadRefusal) (name path : String) : String :=
  (if refusal.isOfHeader then path else name) ++ ": " ++ refusal.message

end LoadRefusal
end SurfaceBridge
