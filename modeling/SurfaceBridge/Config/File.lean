import SurfaceBridge.Config
import SurfaceBridge.Environment
import SurfaceBridge.Toml.Document
import SurfaceBridge.Toml.Excerpt

/-! Configuration files: where they are looked for, what they hold, and what stands in for one that cannot be
read. -/
namespace SurfaceBridge

/-- Why a file gives no configuration. -/
inductive ConfigError where
  | unreadable (path : String) (reason : FileError)
  | notText (path : String)
  /-- The text is no document; reading stopped at the position. -/
  | malformed (text : String) (position : Nat)
  | mistyped (text : String) (mismatch : Config.Mismatch)
  deriving DecidableEq

namespace ConfigError

def text : ConfigError → String
  | unreadable path reason => path ++ ": " ++ reason.text
  | notText path => path ++ ": stream did not contain valid UTF-8"
  | malformed text position =>
    Toml.excerpt text { start := position, stop := position + 1 } "invalid document"
  | mistyped text mismatch => Toml.excerpt text mismatch.place mismatch.text

def driverError (e : ConfigError) : DriverError := .config e.text

end ConfigError

namespace Config

/-- The variable that may name the file. -/
def variableName : String := "XWSI_CONFIG"

def systemPath : String := "/etc/xwsi/xwsi.toml"

def localPath : String := "xwsi.toml"

/-- The path in the variable, if it holds one; else the system's file, if there is one; else the local one. -/
def path (env : Environment) : String :=
  match env.configVariable.bind Text.decode? with
  | some named =>
    if named.isEmpty then fallback else named
  | none => fallback
where
  fallback := if env.pathExists systemPath then systemPath else localPath

def parse (text : String) : Except ConfigError Config :=
  match Toml.document? text with
  | .error position => .error (.malformed text position)
  | .ok entries => (ofEntries entries).mapError (.mistyped text)

/-- The configuration in a file. -/
def load (env : Environment) (path : String) : Except ConfigError Config :=
  match env.read path with
  | .error reason => .error (.unreadable path reason)
  | .ok content =>
    match Text.decode? content with
    | none => .error (.notText path)
    | some text => parse text

/-- The configuration in a file, or all defaults with a notice of what is wrong with the file. -/
def loadOrDefault (env : Environment) (path : String) : Config × List Notice :=
  match load env path with
  | .ok config => (config, [])
  | .error e => ({}, [.defaultConfiguration e.driverError])

end Config
end SurfaceBridge
