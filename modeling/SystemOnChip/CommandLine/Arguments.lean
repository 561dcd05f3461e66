/-! The arguments of the command and the variables that stand in for them. -/
namespace SystemOnChip.CommandLine

inductive Format where
  | text
  | json
deriving DecidableEq

def Format.ofName? : String → Option Format
  | "text" => some text
  | "json" => some json
  | _ => none

/-- A description to compose, and where the map goes; without a path it is printed. -/
structure Job where
  description : String
  format : Format := .text
  output : Option String := none
deriving DecidableEq

inductive Request where
  | help (long : Bool)
  | version
  | compose (job : Job)
deriving DecidableEq

/-- What the arguments have set so far. -/
structure Options where
  description : Option String := none
  format : Option Format := none
  output : Option String := none
  logLevel : Option String := none

namespace Options

/-- Sets an option that was not set before. A path is not empty. -/
def set? (options : Options) (name value : String) : Option Options :=
  match name with
  | "--description" =>
    if options.description.isNone && !value.isEmpty then
      some { options with description := some value }
    else none
  | "--format" => do
    guard options.format.isNone
    let format ← Format.ofName? value
    some { options with format := some format }
  | "--output" =>
    if options.output.isNone && !value.isEmpty then some { options with output := some value }
    else none
  | "--log-level" =>
    if options.logLevel.isNone then some { options with logLevel := some value } else none
  | _ => none

def isName (name : String) : Bool :=
  ["--description", "--format", "--output", "--log-level"].contains name

/-- Variables give what the arguments do not; an empty variable gives an empty
value. The description must be given. -/
def job? (options : Options) (environment : String → Option String) : Option Job := do
  let description ← options.description <|> environment "SOCMAP_DESCRIPTION"
  guard (!description.isEmpty)
  let format ← match options.format, environment "SOCMAP_FORMAT" with
    | some format, _ => some format
    | none, some name => Format.ofName? name
    | none, none => some .text
  some { description, format, output := options.output }

end Options

/-- An argument that starts with a dash is no value, unless it is only that. -/
def isValue (argument : String) : Bool := argument == "-" || !argument.startsWith "-"

/-- Splits an argument at its first equals sign. -/
def splitValue (argument : String) : String × Option String :=
  let (name, rest) := argument.toList.span (· != '=')
  (String.ofList name, match rest with
    | [] => none
    | _ :: value => some (String.ofList value))

/-- A group of letters behind one dash; the first letter decides. -/
def letters? : List Char → Option Request
  | '-' :: 'h' :: _ => some (.help false)
  | '-' :: 'V' :: _ => some .version
  | _ => none

/-- What the arguments ask for; none where they are misused. Two dashes end the
options, and nothing may follow them. -/
def request? (environment : String → Option String) (options : Options) :
    List String → Option Request
  | [] => .compose <$> options.job? environment
  | ["--"] => .compose <$> options.job? environment
  | "--help" :: _ => some (.help true)
  | "--version" :: _ => some .version
  | argument :: rest =>
    match splitValue argument with
    | (name, some value) =>
      match options.set? name value with
      | some options => request? environment options rest
      | none => letters? argument.toList
    | (name, none) =>
      if Options.isName name then
        match rest with
        | value :: rest =>
          if isValue value then
            match options.set? name value with
            | some options => request? environment options rest
            | none => none
          else none
        | [] => none
      else letters? argument.toList

end SystemOnChip.CommandLine
