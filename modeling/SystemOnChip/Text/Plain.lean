/-! Text as it is printed where there is no terminal: control sequences and control
characters are left out, and white space stays. -/
namespace SystemOnChip.Text

namespace Plain

/-- Where a control sequence may stand: outside of any, behind an escape, in the
parts of a sequence of parameters, in those of a device control string, in a
command of the operating system, or in another string. -/
inductive Mode where
  | ground
  | escape
  | escapeIntermediate
  | parameterStart
  | parameters
  | parameterIntermediate
  | parametersIgnored
  | deviceStart
  | deviceParameters
  | deviceIntermediate
  | deviceIgnored
  | device
  | command
  | string
deriving DecidableEq

namespace Mode

def between (first c last : Char) : Bool := first ≤ c && c ≤ last

/-- Whether white space is shown although it stands in a sequence. -/
def showsBlanks : Mode → Bool
  | ground | escape | escapeIntermediate | parameterStart | parameters | parameterIntermediate
  | parametersIgnored => true
  | deviceStart | deviceParameters | deviceIntermediate | deviceIgnored | device | command
  | string => false

def isBlank (c : Char) : Bool := c = '\t' || c = '\n' || c = '\x0c' || c = '\r'

def shows (mode : Mode) (c : Char) : Bool :=
  (mode.showsBlanks && isBlank c) || (mode = ground && ' ' ≤ c && c ≠ '\x7f')

/-- A byte that ends a string stands inside of some characters. -/
def endsString (c : Char) : Bool := c ≥ '\x80' && (String.utf8EncodeChar c).contains 0x9c

def afterEscape (c : Char) : Mode :=
  if c = '[' then parameterStart
  else if c = ']' then command
  else if c = 'P' then deviceStart
  else if c = 'X' || c = '^' || c = '_' then string
  else if between ' ' c '/' then escapeIntermediate
  else if between '0' c '~' then ground
  else escape

/-- The parts that a string or a sequence begins with, up to the character that
decides what it is. -/
def afterPart (here params intermediate ignored done : Mode) (c : Char) : Mode :=
  if between ' ' c '/' then intermediate
  else if between '0' c ';' then params
  else if between '<' c '?' then ignored
  else if between '@' c '~' then done
  else here

/-- The mode behind a character that is not shown. -/
def next (mode : Mode) (c : Char) : Mode :=
  if c = '\x1b' then escape
  else if c = '\x18' || c = '\x1a' then ground
  else match mode with
    | ground => ground
    | escape => afterEscape c
    | escapeIntermediate => if between '0' c '~' then ground else escapeIntermediate
    | parameterStart => afterPart mode parameters parameterIntermediate parameters ground c
    | parameters => afterPart mode parameters parameterIntermediate parametersIgnored ground c
    | parameterIntermediate =>
      afterPart mode parametersIgnored parameterIntermediate parametersIgnored ground c
    | parametersIgnored => if between '@' c '~' then ground else parametersIgnored
    | deviceStart => afterPart mode deviceParameters deviceIntermediate deviceParameters device c
    | deviceParameters => afterPart mode deviceParameters deviceIntermediate deviceIgnored device c
    | deviceIntermediate => afterPart mode deviceIgnored deviceIntermediate deviceIgnored device c
    | deviceIgnored | device | string => if endsString c then ground else mode
    | command => if c = '\x07' then ground else command

end Mode

/-- The characters that are shown. White space interrupts the sequence it stands
in: the text behind it is `interrupted` up to the next character that is not
shown outside of sequences, and there the sequence goes on. -/
def shown (mode : Mode) (interrupted : Bool) : List Char → List Char
  | [] => []
  | c :: rest =>
    if (if interrupted then Mode.ground else mode).shows c then
      c :: shown (if c < '\x80' then mode else .ground) true rest
    else shown (mode.next c) false rest

end Plain

def plain (text : String) : String := String.ofList (Plain.shown .ground false text.toList)

/-- The sequence for bold text before it, and the one for common text behind it. -/
def bold (text : String) : String := s!"\x1b[1m{text}\x1b[0m"

def heading (text : String) : String := s!"\x1b[1m\x1b[4m{text}\x1b[0m"

end SystemOnChip.Text
