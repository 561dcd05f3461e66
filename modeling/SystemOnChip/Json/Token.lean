import SystemOnChip.Json.Number

/-! The tokens of JSON text, and the scanner that finds them character by
character. -/
namespace SystemOnChip.Json

inductive Bracket where
  | square
  | curly
deriving DecidableEq

/-- A text token is none where it holds half a surrogate pair; a word is one of
the three names or a number. -/
inductive Token where
  | opening (bracket : Bracket)
  | closing (bracket : Bracket)
  | comma
  | colon
  | text (value : Option String)
  | word (value : Json)
  | bad

/-- A piece of a string: a character that stands for itself or is escaped by a
letter, or a 16-bit unit that is escaped by its number. -/
inductive TextUnit where
  | char (c : Char)
  | unit (code : Nat)

/-- The text of the pieces: two units may join into one character, and each half
needs the other. -/
def textOf? : List TextUnit → Option (List Char)
  | [] => some []
  | .char c :: rest => (textOf? rest).map (c :: ·)
  | .unit high :: .unit low :: rest =>
    if 0xd800 ≤ high ∧ high < 0xdc00 then
      if 0xdc00 ≤ low ∧ low < 0xe000 then
        (textOf? rest).map (Char.ofNat (0x10000 + (high - 0xd800) * 0x400 + (low - 0xdc00)) :: ·)
      else none
    else if 0xdc00 ≤ high ∧ high < 0xe000 then none
    else (textOf? (.unit low :: rest)).map (Char.ofNat high :: ·)
  | .unit code :: rest =>
    if 0xd800 ≤ code ∧ code < 0xe000 then none else (textOf? rest).map (Char.ofNat code :: ·)

/-- Where the scanner stands: between tokens, in a word, in a string, in a string
behind a backslash, in the digits of an escaped unit of which some are still to
come, or behind a text that is no JSON. The pieces seen are in reverse. -/
inductive Mode where
  | between
  | word (chars : List Char)
  | text (units : List TextUnit)
  | escape (units : List TextUnit)
  | digits (units : List TextUnit) (missing code : Nat)
  | failed

/-- The tokens found, in reverse, and what is read after them. -/
structure Scanner where
  tokens : List Token := []
  mode : Mode := .between

namespace Scanner

def isBlank (c : Char) : Bool := c = ' ' || c = '\t' || c = '\n' || c = '\r'

def punctuation? : Char → Option Token
  | '[' => some (.opening .square)
  | ']' => some (.closing .square)
  | '\x7b' => some (.opening .curly)
  | '\x7d' => some (.closing .curly)
  | ',' => some .comma
  | ':' => some .colon
  | _ => none

/-- The character that a letter behind a backslash stands for. -/
def escaped? : Char → Option Char
  | '"' => some '"'
  | '\\' => some '\\'
  | '/' => some '/'
  | 'b' => some '\x08'
  | 'f' => some '\x0c'
  | 'n' => some '\n'
  | 'r' => some '\r'
  | 't' => some '\t'
  | _ => none

def hexDigit? (c : Char) : Option Nat :=
  if c.isDigit then some (c.toNat - '0'.toNat)
  else if 'a' ≤ c ∧ c ≤ 'f' then some (c.toNat - 'a'.toNat + 10)
  else if 'A' ≤ c ∧ c ≤ 'F' then some (c.toNat - 'A'.toNat + 10)
  else none

def fail (scanner : Scanner) : Scanner := ⟨.bad :: scanner.tokens, .failed⟩

/-- A character that starts a token or separates two. -/
def start (tokens : List Token) (c : Char) : Scanner :=
  if isBlank c then ⟨tokens, .between⟩
  else if c = '"' then ⟨tokens, .text []⟩
  else match punctuation? c with
    | some token => ⟨token :: tokens, .between⟩
    | none => ⟨tokens, .word [c]⟩

/-- The tokens with a finished word among them. -/
def endWord (tokens : List Token) (chars : List Char) : Scanner :=
  match wordValue? chars.reverse with
  | some value => ⟨.word value :: tokens, .between⟩
  | none => ⟨.bad :: tokens, .failed⟩

def step (scanner : Scanner) (c : Char) : Scanner :=
  match scanner.mode with
  | .failed => scanner
  | .between => start scanner.tokens c
  | .word chars =>
    if isBlank c || c = '"' || (punctuation? c).isSome then
      let ended := endWord scanner.tokens chars
      match ended.mode with
      | .failed => ended
      | _ => start ended.tokens c
    else ⟨scanner.tokens, .word (c :: chars)⟩
  | .text units =>
    if c = '"' then ⟨.text ((textOf? units.reverse).map String.ofList) :: scanner.tokens, .between⟩
    else if c = '\\' then ⟨scanner.tokens, .escape units⟩
    else if c < ' ' then scanner.fail
    else ⟨scanner.tokens, .text (.char c :: units)⟩
  | .escape units =>
    if c = 'u' then ⟨scanner.tokens, .digits units 4 0⟩
    else match escaped? c with
      | some c => ⟨scanner.tokens, .text (.char c :: units)⟩
      | none => scanner.fail
  | .digits units missing code =>
    match hexDigit? c with
    | none => scanner.fail
    | some digit =>
      let code := 16 * code + digit
      if missing ≤ 1 then ⟨scanner.tokens, .text (.unit code :: units)⟩
      else ⟨scanner.tokens, .digits units (missing - 1) code⟩

/-- All tokens in order, once the text has ended. -/
def finish (scanner : Scanner) : List Token :=
  let last := match scanner.mode with
    | .between | .failed => scanner
    | .word chars => endWord scanner.tokens chars
    | .text _ | .escape _ | .digits .. => scanner.fail
  last.tokens.reverse

end Scanner

/-- The tokens of a text; what follows a bad one is not looked at. -/
def tokens (text : String) : List Token :=
  (text.toList.foldl Scanner.step {}).finish

end SystemOnChip.Json
