import SystemOnChip.Json.Token

/-! Reading JSON text, token by token. A text that breaks off still has a value:
each container that is open at that point ends with a broken member, so that
what comes before it can be judged first. -/
namespace SystemOnChip.Json

/-- A container that is still open, with its members in reverse, and in an object
the name whose value is to come. -/
inductive Frame where
  | array (items : List Json)
  | object (members : List (String × Json)) (name : Option String)

namespace Frame

/-- An unreadable name hides its value and all that follows. -/
def add (value : Json) : Frame → Frame
  | array items => array (value :: items)
  | object members (some name) => object ((name, value) :: members) none
  | object members none => object (("", .broken) :: members) none

def toJson : Frame → Json
  | array items => .arr items.reverse
  | object members _ => .obj members.reverse

def breakOff : Frame → Json
  | array items => .arr (.broken :: items).reverse
  | object members _ => .obj (("", .broken) :: members).reverse

end Frame

/-- What may come next. -/
inductive Expectation where
  | value
  | itemOrClose
  | nameOrClose
  | name
  | colon
  | commaOrClose
deriving DecidableEq

/-- A text is open up to the end of its value; behind that only blanks may come. -/
inductive Reader where
  | reading (frames : List Frame) (next : Expectation)
  | closed (value : Json) (trailing : Bool)
  | brokenOff (value : Json)

namespace Reader

/-- Gives a finished value to the innermost container. -/
def complete (value : Json) : List Frame → Reader
  | [] => .closed value false
  | frame :: outer => .reading (frame.add value :: outer) .commaOrClose

/-- The value of the open containers that can be read, each of them broken off. -/
def breakOff (frames : List Frame) : Json :=
  (frames.drop (frames.length - maxDepth)).foldl (fun inner frame => (frame.add inner).breakOff)
    .broken

/-- Ends the innermost container; at too great a depth it is unreadable. -/
def close (frame : Frame) (outer : List Frame) : Reader :=
  complete (if outer.length < maxDepth then frame.toJson else .unreadable) outer

def stepValue (frames : List Frame) : Token → Reader
  | .opening .square => .reading (.array [] :: frames) .itemOrClose
  | .opening .curly => .reading (.object [] none :: frames) .nameOrClose
  | .text (some value) => complete (.str value) frames
  | .text none => complete .unreadable frames
  | .word value => complete value frames
  | _ => .brokenOff (breakOff frames)

def stepOpen (frames : List Frame) (next : Expectation) (token : Token) : Reader :=
  match next, token, frames with
  | .value, token, frames => stepValue frames token
  | .itemOrClose, .closing .square, frame :: outer => close frame outer
  | .itemOrClose, token, frames => stepValue frames token
  | .nameOrClose, .closing .curly, frame :: outer => close frame outer
  | .nameOrClose, .text name, .object members _ :: outer
  | .name, .text name, .object members _ :: outer => .reading (.object members name :: outer) .colon
  | .colon, .colon, frames => .reading frames .value
  | .commaOrClose, .comma, .array items :: outer => .reading (.array items :: outer) .value
  | .commaOrClose, .comma, .object members name :: outer =>
    .reading (.object members name :: outer) .name
  | .commaOrClose, .closing .square, .array items :: outer => close (.array items) outer
  | .commaOrClose, .closing .curly, .object members name :: outer =>
    close (.object members name) outer
  | _, _, frames => .brokenOff (breakOff frames)

def step : Reader → Token → Reader
  | .reading frames next, token => stepOpen frames next token
  | .closed value _, _ => .closed value true
  | .brokenOff value, _ => .brokenOff value

/-- The value, and whether something other than blanks follows it. -/
def finish : Reader → Json × Bool
  | .reading frames _ => (breakOff frames, false)
  | .closed value trailing => (value, trailing)
  | .brokenOff value => (value, false)

end Reader

/-- The value of a text, and whether something other than blanks follows it. -/
def ofText (text : String) : Json × Bool :=
  ((tokens text).foldl Reader.step (.reading [] .value)).finish

end SystemOnChip.Json
