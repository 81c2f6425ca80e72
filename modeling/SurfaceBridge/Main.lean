import SurfaceBridge.CommandLine.Run

/-! The program: what its command line needs of the system is read first, and the run is a function of that. -/
namespace SurfaceBridge.Main

/-- The number of a system error, which is reported with either sign. -/
def errorNumber (code : UInt32) : UInt32 := min code (-code)

/-- Why the system refuses a file. -/
def reasonOf (e : IO.Error) : FileError :=
  match e with
  | .noFileOrDirectory .. => .notFound
  | .inappropriateType _ code _ => if errorNumber code = 20 then .notDirectory else .isDirectory
  | .permissionDenied _ code _ => if errorNumber code = 13 then .permissionDenied else .other (toString e)
  | .invalidArgument _ code _ => if errorNumber code = 36 then .nameTooLong else .other (toString e)
  | e => .other (toString e)

def pathExists (path : String) : IO Bool := do
  try
    discard (IO.FS.realPath path)
    return true
  catch _ => return false

/-- What a path leads to. A path that can be followed leads to something, even if that is not readable. -/
def nodeAt (path : String) : IO (Except FileError FileNode) := do
  try return .ok (.file (← IO.FS.readBinFile path).data.toList)
  catch e =>
    match reasonOf e with
    | .isDirectory => return .ok .directory
    | reason => return if ← pathExists path then .ok (.unreadable reason) else .error reason

/-- Where libraries are searched for after the directories of the search variable. -/
def systemDirectories : List String :=
  ["/lib/x86_64-linux-gnu", "/usr/lib/x86_64-linux-gnu", "/lib64", "/usr/lib64", "/lib", "/usr/lib"]

/-- The paths at which a library's name is looked for. -/
def pathsOf (searched : List String) (name : String) : List String :=
  if '/' ∈ name.toList then [name] else (searched ++ systemDirectories).map (· ++ "/" ++ name)

/-- What a search for a library passes over. -/
def passedOver : List LoadRefusal := [.unopened .notFound, .unopened .permissionDenied]

/-- Loads the first file that is there and for this machine, without what it needs. -/
def openPart (searched : List String) (name : String) : IO (Except String LibraryPart) := do
  let mut last := LoadRefusal.unopened .notFound
  let mut foreign := none
  for path in pathsOf searched name do
    match (← nodeAt path).mapError LoadRefusal.unopened >>= FileNode.library with
    | .ok part => return .ok part
    | .error refusal =>
      if refusal.isForeign then foreign := some (refusal.report name path)
      else if refusal ∈ passedOver then last := refusal
      else return .error (refusal.report name path)
  return .error (foreign.getD (last.report name name))

def openLibrary (searched : List String) (name : String) : IO (Except String Library) :=
  LibraryPart.link (openPart searched) name

/-- The answers that were read, and one for everything else. -/
def answering {α : Type} (answers : List (String × α)) (otherwise : α) (name : String) : α :=
  ((answers.find? (·.1 = name)).map (·.2)).getD otherwise

/-- The surroundings of a run, as far as its request looks at them. -/
def surroundings (request : CommandLine.Request) : IO Environment := do
  let setting ← IO.getEnv Config.variableName
  let asked := match request with
    | .verify (some path) _ _ => [path]
    | _ => []
  let paths := asked ++ setting.toList ++ [Config.systemPath, Config.localPath]
  let files ← paths.mapM fun path => do return (path, ← nodeAt path)
  let env : Environment :=
    { configVariable := setting.map (·.toUTF8.data.toList)
      lookup := answering files (.error .notFound)
      openLibrary := answering [] (.error FileError.notFound.loaderText) }
  match request with
  | .verify config libraries _ =>
    let searched := ((← IO.getEnv "LD_LIBRARY_PATH").getD "").splitOn ":" |>.filter (!·.isEmpty)
    let path := config.getD (Config.path env)
    let candidates := Verification.candidates (Verification.configuration env path).2 libraries
    let opened ← candidates.mapM fun name => do return (name, ← openLibrary searched name)
    return { env with openLibrary := answering opened (.error FileError.notFound.loaderText) }
  | _ => return env

end SurfaceBridge.Main

open SurfaceBridge in
def main (arguments : List String) : IO UInt32 := do
  let words := arguments.map (·.toUTF8.data.toList)
  let env ← Main.surroundings (CommandLine.Request.ofArguments words)
  let outcome := CommandLine.run env words
  IO.print outcome.output
  return outcome.status.toUInt32
