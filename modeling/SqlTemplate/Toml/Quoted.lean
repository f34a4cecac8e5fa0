import SqlTemplate.Toml.Trivia

/-! # Reading strings in their four written forms -/
namespace SqlTemplate.Toml

open Reader

/-- Characters that stand for themselves in a basic string. -/
def isBasicChar (c : Char) : Bool :=
  c == '\t' || (0x20 ≤ c.toNat && c.toNat != 0x7f && c != '"' && c != '\\')

def isLiteralChar (c : Char) : Bool :=
  c == '\t' || (0x20 ≤ c.toNat && c.toNat != 0x7f && c != '\'')

def hexValue (c : Char) : Nat :=
  let n := c.toNat
  if n < 0x3a then n - 0x30 else if n < 0x47 then n - 0x37 else n - 0x57

def isHexDigit (c : Char) : Bool :=
  c.isDigit || ('a' ≤ c && c ≤ 'f') || ('A' ≤ c && c ≤ 'F')

def ofDigits (base : Nat) (t : Text) : Nat := t.foldl (fun n c => n * base + hexValue c) 0

/-- The given number of hexadecimal digits, as the character that they number. -/
def codePoint (digits : Nat) : Reader Char :=
  convert (fun n => if n.isValidChar then .ok (Char.ofNat n) else .error .outOfRange) fun c =>
    let t := (c.rest.take digits).takeWhile isHexDigit
    if t.length = digits then .ok (ofDigits 16 t, ⟨c.offset + digits, c.rest.drop digits⟩)
    else fail c

/-- The characters that escapes of two characters stand for. -/
def shortEscape? : Char → Option Char
  | 'b' => some '\x08'
  | 'f' => some '\x0c'
  | 'n' => some '\n'
  | 'r' => some '\r'
  | 't' => some '\t'
  | '\\' => some '\\'
  | '"' => some '"'
  | _ => none

/-- Stops at an unknown escape: after its character, or at it if it takes several bytes. -/
def badEscape (c : Char) : Reader Char :=
  commit <| inside .escapeSequence <|
    expecting (['b', 'f', 'n', 'r', 't', 'u', 'U', '\\', '"'].map fun d => .literal [d]) do
      if c.utf8Size = 1 then
        let _ ← satisfy fun _ => true
      fail

/-- What follows a backslash. -/
def escapeCode : Reader Char := do
  match ← peek? with
  | none => fail
  | some 'u' => do
    let _ ← char 'u'
    commit (inside .unicode4 (codePoint 4))
  | some 'U' => do
    let _ ← char 'U'
    commit (inside .unicode8 (codePoint 8))
  | some c =>
    match shortEscape? c with
    | some d => do
      let _ ← char c
      return d
    | none => badEscape c

def escape : Reader Char := do
  let _ ← char '\\'
  escapeCode

def basicChar : Reader Char := either (satisfy isBasicChar) escape

def basicString : Reader Text := do
  let _ ← char '"'
  let t ← many basicChar
  let _ ← commit (inside .basicString (char '"'))
  return t

def literalString : Reader Text :=
  inside .literalString do
    let _ ← char '\''
    let t ← takeWhile isLiteralChar
    let _ ← commit (char '\'')
    return t

/-- Line breaks after a backslash, with the blanks and lines around them, stand for nothing. -/
def foldedLines : Reader Text := do
  let step : Reader Unit := do
    let _ ← char '\\'
    blanks
    newline
    blankLines
  step
  let _ ← many step
  return []

/-- A piece of a basic string of several lines without quotation marks. -/
def multilineBasicPiece : Reader Text :=
  either (do return [← satisfy isBasicChar]) <|
  either foldedLines <|
  either (do return [← escape]) (do newline; return ['\n'])

/-- A piece of a literal string of several lines without apostrophes. -/
def multilineLiteralPiece : Reader Text :=
  either (do return [← satisfy isLiteralChar]) (do newline; return ['\n'])

/-- Two delimiting characters, else one, before what the condition accepts. -/
def fewQuotes (q : Char) (before : Text → Bool) : Reader Text := do
  let r ← remaining
  if r.take 2 == [q, q] && before (r.drop 2) then word [q, q]
  else if r.take 1 == [q] && before (r.drop 1) then word [q]
  else fail

/-- Delimiting characters that the string goes on after. -/
def innerQuotes (q : Char) : Reader Text :=
  fewQuotes q fun r => r.head?.any (· != q)

/-- Delimiting characters right before the closing delimiter. -/
def lastQuotes (q : Char) : Reader Text :=
  return (← optional (fewQuotes q fun r => r.take 3 == [q, q, q])).getD []

def pieces1 (piece : Reader Text) : Reader Text := do
  let first ← piece
  return first ++ (← many piece).flatten

/-- The body of a string of several lines. `after` reads what follows inner quotes. -/
def multilineBody (q : Char) (piece after : Reader Text) : Reader Text := do
  let start ← many piece
  let middle ← many do
    let quotes ← innerQuotes q
    return quotes ++ (← after)
  return start.flatten ++ middle.flatten ++ (← lastQuotes q)

def multilineString (q : Char) (piece after : Reader Text) : Reader Text := do
  let _ ← word [q, q, q]
  let _ ← optional newline
  let t ← commit (multilineBody q piece after)
  let _ ← commit (word [q, q, q])
  return t

def multilineBasicString : Reader Text :=
  inside .multilineBasicString <|
    multilineString '"' multilineBasicPiece (commit (either (pieces1 multilineBasicPiece) fail))

def multilineLiteralString : Reader Text :=
  inside .multilineLiteralString <|
    multilineString '\'' multilineLiteralPiece (pieces1 multilineLiteralPiece)

def string : Reader Text :=
  either multilineBasicString (either basicString (either multilineLiteralString literalString))

end SqlTemplate.Toml
