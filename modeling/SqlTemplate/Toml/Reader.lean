import SqlTemplate.Text

/-! # Reading with positions, and what a failed reading tells

A failure either is committed and ends the whole reading, or lets an alternative be tried at the
place where the failed one began.
-/
namespace SqlTemplate.Toml

/-- What remains to be read, with its byte offset in the document. -/
structure Cursor where
  offset : Nat
  rest : Text
deriving DecidableEq, Repr

/-- The parts of a document that a failure names. -/
inductive Construct where
  | key
  | tableHeader
  | string
  | basicString
  | multilineBasicString
  | literalString
  | multilineLiteralString
  | escapeSequence
  | unicode4
  | unicode8
  | integer
  | hexInteger
  | octalInteger
  | binaryInteger
  | float
  | dateTime
  | time
  | timeOffset
  | array
  | inlineTable
deriving DecidableEq, Repr

def Construct.name : Construct → Text
  | .key => "key".toList
  | .tableHeader => "table header".toList
  | .string => "string".toList
  | .basicString => "basic string".toList
  | .multilineBasicString => "multiline basic string".toList
  | .literalString => "literal string".toList
  | .multilineLiteralString => "multiline literal string".toList
  | .escapeSequence => "escape sequence".toList
  | .unicode4 => "unicode 4-digit hex code".toList
  | .unicode8 => "unicode 8-digit hex code".toList
  | .integer => "integer".toList
  | .hexInteger => "hexadecimal integer".toList
  | .octalInteger => "octal integer".toList
  | .binaryInteger => "binary integer".toList
  | .float => "floating-point number".toList
  | .dateTime => "date-time".toList
  | .time => "time".toList
  | .timeOffset => "time offset".toList
  | .array => "array".toList
  | .inlineTable => "inline table".toList

/-- What could have stood at the place of a failure. -/
inductive Expected where
  | literal (t : Text)
  | newline
  | digit
  | leadingDigit
deriving DecidableEq, Repr

def Expected.name : Expected → Text
  | .literal t => "`".toList ++ t ++ "`".toList
  | .newline => "newline".toList
  | .digit => "digit".toList
  | .leadingDigit => "leading digit".toList

/-- Reasons to refuse what is well-formed. -/
inductive Cause where
  /-- A key that is there already, in the table of the given path if it is known. -/
  | duplicateKey (key : Text) (table : Option (List Text))
  /-- A dotted key that leads through a value that is no table. -/
  | extendsValue (path : List Text) (kind : Text)
  | outOfRange
  | tooDeep
  | tooLarge
  | tooSmall
deriving DecidableEq, Repr

def dotted (path : List Text) : Text := ['.'].intercalate path

def Cause.message : Cause → Text
  | .duplicateKey key none => "duplicate key `".toList ++ key ++ "`".toList
  | .duplicateKey key (some []) => "duplicate key `".toList ++ key ++ "` in document root".toList
  | .duplicateKey key (some path) =>
    "duplicate key `".toList ++ key ++ "` in table `".toList ++ dotted path ++ "`".toList
  | .extendsValue path kind =>
    "dotted key `".toList ++ dotted path ++
      "` attempted to extend non-table type (".toList ++ kind ++ [')']
  | .outOfRange => "value is out of range".toList
  | .tooDeep => "recursion limit exceeded".toList
  | .tooLarge => "number too large to fit in target type".toList
  | .tooSmall => "number too small to fit in target type".toList

structure Failure where
  committed : Bool
  offset : Nat
  /-- The innermost construct that was being read. -/
  construct : Option Construct
  /-- From the innermost construct outwards. -/
  expected : List Expected
  cause : Option Cause
deriving DecidableEq, Repr

/-- The text of a failure, a line for each of its parts. -/
def Failure.message (f : Failure) : Text :=
  ['\n'].intercalate <|
    (f.construct.map fun c => "invalid ".toList ++ c.name).toList ++
    (if f.expected.isEmpty then []
      else ["expected ".toList ++ [',', ' '].intercalate (f.expected.map Expected.name)]) ++
    (f.cause.map Cause.message).toList

/-- Reads a value from the front of a text. -/
abbrev Reader (α : Type) := StateT Cursor (Except Failure) α

namespace Reader

variable {α β : Type}

def failAt (offset : Nat) (cause : Option Cause) : Failure := ⟨false, offset, none, [], cause⟩

/-- Stops here, uncommitted. -/
def fail : Reader α := fun c => .error (failAt c.offset none)

/-- Stops here for a cause, uncommitted. -/
def refuse (cause : Cause) : Reader α := fun c => .error (failAt c.offset (some cause))

def mapFailure (f : Failure → Failure) (r : Reader α) : Reader α := fun c =>
  match r c with
  | .ok x => .ok x
  | .error e => .error (f e)

/-- A failure of the reader ends the whole reading. -/
def commit (r : Reader α) : Reader α := mapFailure (fun e => { e with committed := true }) r

/-- Names what is being read. -/
def inside (k : Construct) (r : Reader α) : Reader α :=
  mapFailure (fun e => { e with construct := e.construct.or (some k) }) r

/-- Adds what could stand at the place of a failure. -/
def expecting (es : List Expected) (r : Reader α) : Reader α :=
  mapFailure (fun e => { e with expected := e.expected ++ es }) r

/-- The second reader, from the same place, where the first one fails uncommitted. -/
def either (r s : Reader α) : Reader α := fun c =>
  match r c with
  | .ok x => .ok x
  | .error e => if e.committed then .error e else s c

/-- Reads nothing where the reader fails uncommitted. -/
def optional (r : Reader α) : Reader (Option α) := fun c =>
  match r c with
  | .ok (a, c') => .ok (some a, c')
  | .error e => if e.committed then .error e else .ok (none, c)

/-- Converts what was read. A value that is refused counts as a failure at its start. -/
def convert (f : α → Except Cause β) (r : Reader α) : Reader β := fun c =>
  match r c with
  | .error e => .error e
  | .ok (a, c') => match f a with
    | .ok b => .ok (b, c')
    | .error cause => .error (failAt c.offset (some cause))

/-- The value with the bytes it was read from. -/
def spanned (r : Reader α) : Reader (α × Span) := fun c =>
  match r c with
  | .ok (a, c') => .ok ((a, ⟨c.offset, c'.offset⟩), c')
  | .error e => .error e

/-- The next character, left unread. -/
def peek? : Reader (Option Char) := fun c => .ok (c.rest.head?, c)

def remaining : Reader Text := fun c => .ok (c.rest, c)

def satisfy (p : Char → Bool) : Reader Char := fun c =>
  match c.rest with
  | [] => fail c
  | d :: r => if p d then .ok (d, ⟨c.offset + d.utf8Size, r⟩) else fail c

def anyChar : Reader Char := satisfy fun _ => true

def char (d : Char) : Reader Char := satisfy (· == d)

/-- The given text, or nothing of it. -/
def word (t : Text) : Reader Text := fun c =>
  if t.isPrefixOf c.rest then .ok (t, ⟨c.offset + t.byteSize, c.rest.drop t.length⟩) else fail c

/-- All characters of a class that come next. -/
def takeWhile (p : Char → Bool) : Reader Text := fun c =>
  let t := c.rest.takeWhile p
  .ok (t, ⟨c.offset + Text.byteSize t, c.rest.dropWhile p⟩)

def takeWhile1 (p : Char → Bool) : Reader Text := fun c =>
  match c.rest.takeWhile p with
  | [] => fail c
  | t => .ok (t, ⟨c.offset + Text.byteSize t, c.rest.dropWhile p⟩)

/-- As many as there are, at most the given number. -/
def manyUpTo : Nat → Reader α → Reader (List α)
  | 0, _ => pure []
  | n + 1, r => fun c =>
    match r c with
    | .ok (a, c') => (manyUpTo n r c').map fun (as, c'') => (a :: as, c'')
    | .error e => if e.committed then .error e else .ok ([], c)

/-- As many as there are. The reader takes a character at least, so no more can come than
characters remain. -/
def many (r : Reader α) : Reader (List α) := fun c => manyUpTo c.rest.length r c

/-- One or more, with separators between them. -/
def sepBy1 (sep : Reader β) (r : Reader α) : Reader (List α) := do
  let a ← r
  let as ← many (do let _ ← sep; r)
  return a :: as

/-- None or more, with separators between them. -/
def sepBy (sep : Reader β) (r : Reader α) : Reader (List α) := do
  return (← optional (sepBy1 sep r)).getD []

def endOfText : Reader Unit := fun c => if c.rest.isEmpty then .ok ((), c) else fail c

end Reader

end SqlTemplate.Toml
