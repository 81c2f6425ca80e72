import SurfaceBridge.CommandLine.Help
import SurfaceBridge.CommandLine.Settings

/-! What a whole command line asks for. -/
namespace SurfaceBridge.CommandLine

inductive Request where
  | help (page : HelpPage)
  | version
  | misuse
  | verify (config : Option String) (libraries : List String) (json : Bool)
  | extensions
  | translate (extensions layers : List String)
  deriving DecidableEq

namespace Request

def ofSettings (command : Command) (settings : List Setting) : Request :=
  match command with
  | .verify =>
    .verify (valuesOf settings .config).head? (valuesOf settings .library)
      !(valuesOf settings .json).isEmpty
  | .extensions => .extensions
  | .translate => .translate (valuesOf settings .extension) (valuesOf settings .layer)

/-- The words after the help command: none, or one command. -/
private def ofHelp : List Word → Request
  | [] => .help .overview
  | [word] =>
    if word.text = helpName then .help .helpCommand
    else
      match Command.ofName? word.text with
      | some command => .help (.command command)
      | none => .misuse
  | _ => .misuse

/-- A first word that is no command. -/
private def ofFlag (word : Word) : Request :=
  if word.text = "--help" then .help .overview
  else if word.text = "--version" then .version
  else
    match word.text.toList with
    | '-' :: 'h' :: _ => .help .overview
    | '-' :: 'V' :: _ => .version
    | _ => .misuse

/-- The first word decides how the others are read. -/
def ofWords : List Word → Request
  | [] => .misuse
  | word :: rest =>
    if word.text = helpName then ofHelp rest
    else
      match Command.ofName? word.text with
      | none => ofFlag word
      | some command =>
        match command.readSettings [] rest with
        | .ok settings => ofSettings command settings
        | .error .help => .help (.command command)
        | .error .misuse => .misuse

def ofArguments (arguments : List (List UInt8)) : Request := ofWords (arguments.map Word.ofBytes)

end Request
end SurfaceBridge.CommandLine
