/-! The commands and their options, as a user writes them and as help describes them. -/
namespace SurfaceBridge.CommandLine

/-- An option of some command, besides the one that asks for help. -/
inductive Opt where
  | config
  | library
  | json
  | extension
  | layer
  deriving DecidableEq

namespace Opt

def long : Opt → String
  | config => "config"
  | library => "library"
  | json => "json"
  | extension => "extension"
  | layer => "layer"

def short? : Opt → Option Char
  | config => some 'c'
  | library | layer => some 'l'
  | json => none
  | extension => some 'e'

/-- The name of the option's value in help; an option without a value is a switch. -/
def valueName? : Opt → Option String
  | config => some "CONFIG"
  | library => some "LIBRARY"
  | json => none
  | extension => some "EXTENSION"
  | layer => some "LAYER"

def isSwitch (opt : Opt) : Bool := opt.valueName?.isNone

def isRepeatable : Opt → Bool
  | config | json => false
  | library | extension | layer => true

def help : Opt → String
  | config => "Configuration file path (defaults to $XWSI_CONFIG, then the system paths)"
  | library => "Library to try instead of the configured candidates (repeatable)"
  | json => "Print results as JSON"
  | extension => "Extension requested by the application (repeatable)"
  | layer => "Layer requested by the application (repeatable)"

end Opt

inductive Command where
  | verify
  | extensions
  | translate
  deriving DecidableEq

namespace Command

def all : List Command := [verify, extensions, translate]

def name : Command → String
  | verify => "verify"
  | extensions => "extensions"
  | translate => "translate"

def about : Command → String
  | verify => "Check that the native Vulkan library loads and exports every required entry point"
  | extensions => "List the instance extensions the driver advertises"
  | translate => "Show what the native driver receives for a given instance request"

def options : Command → List Opt
  | verify => [.config, .library, .json]
  | extensions => []
  | translate => [.extension, .layer]

def ofName? (name : String) : Option Command := all.find? (·.name = name)

end Command
end SurfaceBridge.CommandLine
