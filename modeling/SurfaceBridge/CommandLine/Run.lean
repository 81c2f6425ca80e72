import SurfaceBridge.CommandLine.Request
import SurfaceBridge.Report.Json
import SurfaceBridge.Report.Listing
import SurfaceBridge.Translation
import SurfaceBridge.Verification

/-! What each request prints, and the status that the program ends with. -/
namespace SurfaceBridge.CommandLine

structure Outcome where
  status : UInt8
  output : String
  deriving DecidableEq

namespace Outcome

/-- A run that ends well. -/
def printed (output : String) : Outcome := { status := 0, output }

def ofReport (checks : List Report.Check) (json : Bool) : Outcome where
  status := if Report.failed checks then 1 else 0
  output := if json then Report.jsonLine checks else Report.listing checks

end Outcome

private def unlines (lines : List String) : String := String.join (lines.map (· ++ "\n"))

private def padded (text : String) (width : Nat) : String := text ++ "".pushn ' ' (width - text.length)

/-- The advertised extensions, and the names that are replaced. -/
def extensionsText : String :=
  unlines (
    ["Advertised instance extensions:", ""] ++
      Extension.advertised.map (fun extension =>
        "  " ++ padded extension.label.text 32 ++ s!" version {extension.version}") ++
      ["", "Substituted before reaching the native driver:", ""] ++
      Extension.substitutions.map fun (asked, passed) => "  " ++ asked.text ++ " -> " ++ passed.text)

/-- The descriptor that names extensions and layers and nothing else. -/
def requested (extensions layers : List String) : InstanceInfo where
  extensions := some (extensions.map Label.ofText)
  layers := some (layers.map Label.ofText)

/-- The names that reach the native driver, and the layers that do not. -/
def translationText (extensions layers : List String) : String :=
  let info := requested extensions layers
  let names := (Translation.ofInfo info).names
  unlines (
    ["Extensions passed to the native driver:", ""] ++
      (if names.isEmpty then ["  (none)"] else names.map ("  " ++ ·.text)) ++
      (if layers.isEmpty then []
        else ["", "Layers stripped:", ""] ++ info.layerNames.map ("  " ++ ·.text)))

/-- No name may hold a zero character: names end there. -/
def translate (extensions layers : List String) : Outcome :=
  if (extensions ++ layers).any fun name => '\x00' ∈ name.toList then { status := 1, output := "" }
  else .printed (translationText extensions layers)

def run (env : Environment) (arguments : List (List UInt8)) : Outcome :=
  match Request.ofArguments arguments with
  | .help page => .printed page.text
  | .version => .printed (program ++ " " ++ version ++ "\n")
  | .misuse => { status := 2, output := "" }
  | .verify config libraries json => .ofReport (Verification.checks env config libraries) json
  | .extensions => .printed extensionsText
  | .translate extensions layers => translate extensions layers

end SurfaceBridge.CommandLine
