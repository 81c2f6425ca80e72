import SurfaceBridge.CommandLine.Command

/-! Help pages. -/
namespace SurfaceBridge.CommandLine

inductive HelpPage where
  | overview
  | command (of : Command)
  /-- The page on help itself. -/
  | helpCommand
  deriving DecidableEq

/-- Two columns, the first one as wide as its longest entry. -/
def columns (rows : List (String × String)) : String :=
  let width := (rows.map (·.1.length)).foldl max 0
  String.join (rows.map fun (left, right) =>
    "  " ++ left ++ "".pushn ' ' (width - left.length) ++ "  " ++ right ++ "\n")

def program : String := "xwsi"

def version : String := "0.1.0"

def about : String := "xwsi - Win32 surface presentation on the native Xlib Vulkan driver"

/-- The command that shows a help page. -/
def helpName : String := "help"

def helpAbout : String := "Print this message or the help of the given subcommand(s)"

private def helpRow : String × String := ("-h, --help", "Print help")

/-- An option's row; the long name stands where it would stand after a short one. -/
def Opt.row (opt : Opt) : String × String :=
  let short := match opt.short? with
    | some letter => "-" ++ letter.toString ++ ", "
    | none => "    "
  let value := match opt.valueName? with
    | some name => " <" ++ name ++ ">"
    | none => ""
  (short ++ "--" ++ opt.long ++ value, opt.help)

private def page (about usage : String) (parts : List (String × List (String × String))) : String :=
  about ++ "\n\nUsage: " ++ program ++ " " ++ usage ++ "\n" ++
    String.join (parts.map fun (heading, rows) => "\n" ++ heading ++ ":\n" ++ columns rows)

def HelpPage.text : HelpPage → String
  | .overview =>
    page about "<COMMAND>" [
      ("Commands", Command.all.map (fun command => (command.name, command.about)) ++ [(helpName, helpAbout)]),
      ("Options", [helpRow, ("-V, --version", "Print version")])]
  | .command of =>
    page of.about (of.name ++ if of.options.isEmpty then "" else " [OPTIONS]")
      [("Options", of.options.map Opt.row ++ [helpRow])]
  | .helpCommand =>
    page helpAbout (helpName ++ " [COMMAND]...")
      [("Arguments", [("[COMMAND]...", "Print help for the subcommand(s)")])]

end SurfaceBridge.CommandLine
