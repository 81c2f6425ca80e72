import SurfaceBridge.CommandLine.Command
import SurfaceBridge.Label

/-! The words after a command, read as options with their values. Words are read in order, and the first
one that asks for help or that cannot be read ends the reading. -/
namespace SurfaceBridge.CommandLine

/-- A word of the command line. Bytes outside any character show as the replacement character. -/
structure Word where
  text : String
  isText : Bool
  deriving DecidableEq

namespace Word

def ofBytes (bytes : List UInt8) : Word :=
  match Text.decode? bytes with
  | some text => { text, isText := true }
  | none => { text := (Label.ofBytes bytes).text, isText := false }

/-- A word that cannot be an option's value: it begins like an option. A lone hyphen does not. -/
def looksLikeOption (word : Word) : Bool :=
  match word.text.toList with
  | '-' :: _ :: _ => true
  | _ => false

end Word

/-- Why the options are not read to their end. -/
inductive Stop where
  | help
  | misuse
  deriving DecidableEq

/-- An option with its value, which is empty for a switch. -/
abbrev Setting := Opt × String

/-- What a word says on its own. -/
inductive Shape where
  /-- An option, with a value if one is attached. -/
  | option (opt : Opt) (attached : Option String)
  | help
  /-- Two hyphens, which end the options. -/
  | divider
  | unknown
  deriving DecidableEq

namespace Command

/-- A word of two hyphens and a name, perhaps with an equals sign and a value. -/
private def longShape (command : Command) (body : List Char) : Shape :=
  let (name, rest) := body.span (· ≠ '=')
  let attached := if rest.isEmpty then none else some (String.ofList (rest.drop 1))
  let name := String.ofList name
  if name = "help" then (if attached.isNone then .help else .unknown)
  else
    match command.options.find? (·.long = name) with
    | some opt => if opt.isSwitch ∧ attached.isSome then .unknown else .option opt attached
    | none => .unknown

/-- A word of one hyphen and a letter, perhaps with a value, before which an equals sign may stand. -/
private def shortShape (command : Command) (letter : Char) (rest : List Char) : Shape :=
  if letter = 'h' then .help
  else
    match command.options.find? (·.short? = some letter) with
    | none => .unknown
    | some opt =>
      match rest with
      | [] => .option opt none
      | '=' :: value => .option opt (some (String.ofList value))
      | value => .option opt (some (String.ofList value))

def shape (command : Command) (word : Word) : Shape :=
  match word.text.toList with
  | ['-', '-'] => .divider
  | '-' :: '-' :: body => command.longShape body
  | '-' :: letter :: rest => command.shortShape letter rest
  | _ => .unknown

/-- Adds a setting, unless the option is there already and not repeatable. -/
private def add (settings : List Setting) (opt : Opt) (value : String) : Except Stop (List Setting) :=
  if !opt.isRepeatable ∧ settings.any (·.1 = opt) then .error .misuse else .ok (settings ++ [(opt, value)])

/-- Reads the words after the settings that are read already. -/
def readSettings (command : Command) (settings : List Setting) : List Word → Except Stop (List Setting)
  | [] => .ok settings
  | word :: rest =>
    match command.shape word with
    | .help => .error .help
    | .unknown => .error .misuse
    | .divider => if rest.isEmpty then .ok settings else .error .misuse
    | .option opt (some value) => do
      if word.isText then command.readSettings (← add settings opt value) rest else throw .misuse
    | .option opt none =>
      if opt.isSwitch then do command.readSettings (← add settings opt "") rest
      else
        match rest with
        | value :: rest => do
          if value.isText ∧ !value.looksLikeOption then
            command.readSettings (← add settings opt value.text) rest
          else throw .misuse
        | [] => .error .misuse

/-- A long name with a value behind an equals sign. -/
theorem shape_long {command : Command} {opt : Opt} (known : command.options.find? (·.long = opt.long) = some opt)
    (valued : opt.isSwitch = false) (value : String) (isText : Bool) :
    command.shape { text := "--" ++ opt.long ++ "=" ++ value, isText } = .option opt (some value) := by
  have word : ("--" ++ opt.long ++ "=" ++ value).toList = '-' :: '-' :: (opt.long.toList ++ '=' :: value.toList) := by
    simp
  have parts : (opt.long.toList ++ '=' :: value.toList).span (· ≠ '=') = (opt.long.toList, '=' :: value.toList) := by
    cases opt <;> rfl
  have other : opt.long ≠ "help" := by cases opt <;> decide
  have shown : command.longShape (opt.long.toList ++ '=' :: value.toList) = .option opt (some value) := by
    rw [longShape, parts]
    simp [other, known, valued]
  rw [← shown, shape]
  simp only [word]
  cases opt <;> rfl

/-- An option that may be repeated is read after all settings before it. -/
theorem readSettings_long {command : Command} {opt : Opt}
    (known : command.options.find? (·.long = opt.long) = some opt) (valued : opt.isSwitch = false)
    (repeatable : opt.isRepeatable = true) (settings : List Setting) (value : String) (rest : List Word) :
    command.readSettings settings ({ text := "--" ++ opt.long ++ "=" ++ value, isText := true } :: rest) =
      command.readSettings (settings ++ [(opt, value)]) rest := by
  have added : add settings opt value = .ok (settings ++ [(opt, value)]) := by simp [add, repeatable]
  rw [readSettings, shape_long known valued]
  simp only [if_true, added]
  rfl

end Command

/-- The values of an option, in order. -/
def valuesOf (settings : List Setting) (opt : Opt) : List String :=
  (settings.filter (·.1 = opt)).map (·.2)

end SurfaceBridge.CommandLine
