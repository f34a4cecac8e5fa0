import SqlTemplate.Toml.Reader

/-! # Blanks, line breaks and comments of a document -/
namespace SqlTemplate.Toml

open Reader

def isBlank (c : Char) : Bool := c == ' ' || c == '\t'

def isCommentChar (c : Char) : Bool := c == '\t' || (0x20 ≤ c.toNat && c.toNat != 0x7f)

def blanks : Reader Unit := do
  let _ ← takeWhile isBlank

/-- A line feed, with or without a carriage return before it. A failure stands after the character
that is no line break. -/
def newline : Reader Unit := do
  match ← anyChar with
  | '\n' => pure ()
  | '\r' => let _ ← char '\n'
  | _ => fail

def comment : Reader Unit := do
  let _ ← char '#'
  let _ ← takeWhile isCommentChar

def lineEnd : Reader Unit := either newline endOfText

/-- What may follow a header or a value on its line. -/
def restOfLine : Reader Unit :=
  expecting [.newline, .literal ['#']] do
    blanks
    let _ ← optional comment
    lineEnd

def blankLines : Reader Unit := do
  let _ ← many (either newline (do let _ ← takeWhile1 isBlank))

/-- Blanks, line breaks and comments, for as many lines as given. -/
def paddingLines : Nat → Reader Unit
  | 0 => blanks
  | n + 1 => do
    blanks
    match ← peek? with
    | some '#' => comment; newline; paddingLines n
    | some '\n' | some '\r' => newline; paddingLines n
    | _ => pure ()

def padding : Reader Unit := do
  paddingLines (← remaining).length

end SqlTemplate.Toml
