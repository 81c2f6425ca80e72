import SurfaceBridge.Binding.Linking

/-! What surrounds a process: one variable, files, and native libraries that load or do not. -/
namespace SurfaceBridge

/-- What a path leads to. -/
inductive FileNode where
  | file (content : List UInt8)
  | directory
  /-- A file that is there but cannot be read. -/
  | unreadable (reason : FileError)
  deriving DecidableEq

/-- What loading gives. -/
def FileNode.library : FileNode → Except LoadRefusal LibraryPart
  | file content => LibraryPart.ofImage? { bytes := ⟨content.toArray⟩ }
  | directory => .error .directory
  | unreadable reason => .error (.unopened reason)

structure Environment where
  /-- The variable that names a configuration file, if it is set. -/
  configVariable : Option (List UInt8)
  /-- What each path leads to, or why it leads to nothing. -/
  lookup : String → Except FileError FileNode
  openLibrary : LibraryEnv

namespace Environment

/-- Whether the path leads to anything, be it readable or not. -/
def pathExists (env : Environment) (path : String) : Bool := (env.lookup path).isOk

/-- The content of a file. -/
def read (env : Environment) (path : String) : Except FileError (List UInt8) := do
  match ← env.lookup path with
  | .file content => return content
  | .directory => throw .isDirectory
  | .unreadable reason => throw reason

end Environment
end SurfaceBridge
