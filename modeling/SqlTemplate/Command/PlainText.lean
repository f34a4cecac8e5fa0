import SqlTemplate.Text

/-! # Text without what steers a terminal

Control characters and escape sequences do not show. An escape sequence goes on until a character
ends it, and white space within one still shows.
-/
namespace SqlTemplate.Command

/-- How far an escape sequence has come. -/
inductive Sequence where
  /-- Behind the escape character. -/
  | opened
  | intermediate
  | control
  /-- The command of a string for the operating system. -/
  | systemString
  /-- The start of a device control string. -/
  | deviceStart
  | deviceParameters
  | deviceIntermediate
  /-- A string that only the string terminator ends. -/
  | string
deriving DecidableEq, Repr

/-- Where a reading of characters stands. -/
inductive Place where
  /-- In text that shows, perhaps within a sequence that the next control character resumes. -/
  | text (suspended : Option Sequence)
  | sequence (s : Sequence)
deriving DecidableEq, Repr

def escapeChar : Char := '\x1b'

/-- The two control characters that break off any sequence. -/
def cancels (c : Char) : Bool := c == '\x18' || c == '\x1a'

def isControl (c : Char) : Bool := c.toNat < 0x20 || c == '\x7f'

/-- Line breaks and tabs, but not the vertical tab. -/
def isShownControl (c : Char) : Bool := c == '\t' || c == '\n' || c == '\x0c' || c == '\r'

def isWide (c : Char) : Bool := 0x80 ≤ c.toNat

def between (first last c : Char) : Bool := first ≤ c && c ≤ last

/-- Whether the UTF-8 form of a character has the byte that stands for the string terminator. -/
def holdsTerminator (c : Char) : Bool := (String.utf8EncodeChar c).contains 0x9c

namespace Sequence

/-- Whether control characters act at once, within the sequence. -/
def letsControlsAct : Sequence → Bool
  | .opened | .intermediate | .control => true
  | _ => false

/-- The sequence behind one more character, which neither cancels it nor opens another. The answer
is `none` if the sequence is complete. -/
def next (s : Sequence) (c : Char) : Option Sequence :=
  match s with
  | .opened =>
    if isControl c || isWide c then some .opened
    else if between ' ' '/' c then some .intermediate
    else match c with
      | '[' => some .control
      | ']' => some .systemString
      | 'P' => some .deviceStart
      | 'X' | '^' | '_' => some .string
      | _ => none
  | .intermediate => if between '0' '~' c then none else some .intermediate
  | .control => if between '@' '~' c then none else some .control
  | .systemString => if c = '\x07' then none else some .systemString
  | .deviceStart =>
    some <|
      if between ' ' '/' c then .deviceIntermediate
      else if c = ':' || between '@' '~' c then .string
      else if between '0' '?' c then .deviceParameters
      else .deviceStart
  | .deviceParameters =>
    some <|
      if between ' ' '/' c then .deviceIntermediate
      else if between '0' '9' c || c = ';' then .deviceParameters
      else if between ':' '~' c then .string
      else .deviceParameters
  | .deviceIntermediate =>
    some (if between '0' '~' c then .string else .deviceIntermediate)
  | .string => if isWide c && holdsTerminator c then none else some .string

end Sequence

namespace Place

def shows (p : Place) (c : Char) : Bool :=
  match p with
  | .text _ => !isControl c || isShownControl c
  | .sequence s => s.letsControlsAct && isShownControl c

def next (p : Place) (c : Char) : Place :=
  if c = escapeChar then .sequence .opened
  else if cancels c then .text none
  else
    match p with
    | .text suspended =>
      if isWide c then .text none
      else if p.shows c then p
      else (suspended.map .sequence).getD (.text none)
    | .sequence s =>
      if p.shows c then .text (some s)
      else ((s.next c).map .sequence).getD (.text none)

/-- The characters that show of a text that is read from a place on. -/
def shown : Place → Text → Text
  | _, [] => []
  | p, c :: r => (if p.shows c then [c] else []) ++ (p.next c).shown r

end Place

/-- What a terminal shows of a text. -/
def plainText (t : Text) : Text := Place.shown (.text none) t

end SqlTemplate.Command
