import SystemOnChip.Text.Layout
import SystemOnChip.Text.Plain

/-! What the command prints about itself: a summary with a line for each option,
or a long form with its paragraphs. -/
namespace SystemOnChip.CommandLine

def versionText : String := "socmap 0.1.0\n"

/-- An option with what its value is and where it comes from if it is not given. -/
structure OptionHelp where
  name : String
  value : String
  summary : String
  variableName : Option String := none
  byDefault : Option String := none
  choices : List (String × String) := []

/-- Each further line of a text begins at the given column. -/
def hanging (column : Nat) (text : String) : String :=
  ("\n".pushn ' ' column).intercalate (text.splitOn "\n")

namespace OptionHelp

def sources (option : OptionHelp) (environment : String → Option String) : List String :=
  let inherited := option.variableName.toList.map fun name =>
    let value := (environment name).getD ""
    s!"[env: {name}={value}]"
  inherited ++ option.byDefault.toList.map fun value => s!"[default: {value}]"

def usage (option : OptionHelp) (width : Nat) : String :=
  let value := Text.column (width - option.name.length - 1) option.value
  s!"{Text.bold option.name} {value}"

/-- The option on one line, with its summary in the column that all share. -/
def line (environment : String → Option String) (option : OptionHelp) : String :=
  let names := option.choices.map (·.1)
  let choices := ", ".intercalate names
  let notes := option.summary :: option.sources environment ++
    if names.isEmpty then [] else [s!"[possible values: {choices}]"]
  let notes := hanging 31 (" ".intercalate notes)
  s!"      {option.usage 23}  {notes}\n"

def paragraphs (environment : String → Option String) (option : OptionHelp) : String :=
  let about := match option.variableName with
    | some name => s!"{option.summary}.\n\nEnvironment variable: \x60{name}\x60."
    | none => option.summary
  let choices := option.choices.map fun (name, meaning) =>
    s!"\n          - {Text.bold name}: {meaning}"
  let choices := if choices.isEmpty then ""
    else s!"\n\n          Possible values:{String.join choices}"
  let sources := option.sources environment
  let sources := if sources.isEmpty then "" else "\n\n" ++ "\n".intercalate sources
  s!"      {option.usage 0}\n          {hanging 10 about}{choices}{hanging 10 sources}\n\n"

end OptionHelp

def optionHelps : List OptionHelp := [
  { name := "--description"
    value := "<PATH>"
    summary := "SoC description (JSON)"
    variableName := some "SOCMAP_DESCRIPTION" },
  { name := "--format"
    value := "<FORMAT>"
    summary := "Output format"
    variableName := some "SOCMAP_FORMAT"
    byDefault := some "text"
    choices := [("text", "Human-readable tables"),
      ("json", "The finalized map as pretty-printed JSON")] },
  { name := "--output"
    value := "<PATH>"
    summary := "Write the map to this path instead of stdout" },
  { name := "--log-level"
    value := "<LOG_LEVEL>"
    summary := "Log filter (tracing-subscriber EnvFilter syntax). Logs go to stderr"
    variableName := some "SOCMAP_LOG"
    byDefault := some "warn" }]

/-- The help as a terminal would show it: headings are underlined, names are bold. -/
def styledHelp (environment : String → Option String) (long : Bool) : String :=
  let header :=
    "Compose a SoC from a JSON description and print its finalized address map.\n\n" ++
      Text.heading "Usage:" ++ " " ++ Text.bold "socmap" ++ " [OPTIONS] " ++
      Text.bold "--description" ++ " <PATH>\n\n" ++ Text.heading "Options:" ++ "\n"
  let help := "  " ++ Text.bold "-h" ++ ", " ++ Text.bold "--help"
  let version := "  " ++ Text.bold "-V" ++ ", " ++ Text.bold "--version"
  if long then
    header ++ String.join (optionHelps.map (·.paragraphs environment)) ++
      help ++ "\n          Print help (see a summary with '-h')\n\n" ++
      version ++ "\n          Print version\n"
  else
    header ++ String.join (optionHelps.map (·.line environment)) ++
      help ++ "                   Print help (see more with '--help')\n" ++
      version ++ "                Print version\n"

/-- Whether output is styled although it goes to no terminal: one variable asks
for it, and another one forbids it. Either counts unless it is empty. -/
def isStyled (environment : String → Option String) : Bool :=
  let isSet := fun name => (environment name).any (!·.isEmpty)
  isSet "CLICOLOR_FORCE" && !isSet "NO_COLOR"

/-- The help, by default without what only a terminal understands, which a
variable may hold too. -/
def helpText (environment : String → Option String) (long : Bool) : String :=
  let text := styledHelp environment long
  if isStyled environment then text else Text.plain text

end SystemOnChip.CommandLine
