import SqlTemplate.Text

/-! # The written forms of a TOML string

A string is written without escapes and on one line where it can be, in quotation marks before
apostrophes, and then in the form of several lines.
-/
namespace SqlTemplate.Toml

inductive StringForm where
  /-- In quotation marks, with escapes. -/
  | basic
  /-- In apostrophes, as it is. -/
  | literal
  /-- In three quotation marks, with escapes. -/
  | multilineBasic
  /-- In three apostrophes, as it is. -/
  | multilineLiteral
deriving DecidableEq, Repr

/-- Control characters that no form holds as they are. -/
def needsEscape (c : Char) : Bool :=
  (c.toNat < 0x20 && c != '\t' && c != '\n') || c.toNat == 0x7f

def tripled (q : Char) : Text → Bool
  | a :: b :: c :: r => (a == q && b == q && c == q) || tripled q (b :: c :: r)
  | _ => false

namespace StringForm

/-- The form in which a string is written. -/
def choose (t : Text) : StringForm :=
  let plain := !t.any needsEscape
  let oneLine := !t.contains '\n'
  if plain && !t.contains '\\' && !t.contains '"' && oneLine then .basic
  else if plain && !t.contains '\'' && oneLine then .literal
  else if plain && !t.contains '\\' && !tripled '"' t then .multilineBasic
  else if plain && !tripled '\'' t then .multilineLiteral
  else if oneLine then .basic
  else .multilineBasic

def multiline : StringForm → Bool
  | .basic | .literal => false
  | .multilineBasic | .multilineLiteral => true

/-- Stands on either side of the string. -/
def delimiter : StringForm → Text
  | .basic => ['"']
  | .literal => ['\'']
  | .multilineBasic => ['"', '"', '"']
  | .multilineLiteral => ['\'', '\'', '\'']

end StringForm

/-- Four hexadecimal digits in upper case. -/
def hex4 (n : Nat) : Text :=
  [n / 4096 % 16, n / 256 % 16, n / 16 % 16, n % 16].map fun d => (Nat.digitChar d).toUpper

/-- A character other than a quotation mark in a string with escapes. -/
def escapeChar (multiline : Bool) (c : Char) : Text :=
  if c = '\x08' then ['\\', 'b']
  else if c = '\t' then ['\\', 't']
  else if c = '\n' then if multiline then ['\n'] else ['\\', 'n']
  else if c = '\x0c' then ['\\', 'f']
  else if c = '\r' then ['\\', 'r']
  else if c = '\\' then ['\\', '\\']
  else if needsEscape c then '\\' :: 'u' :: hex4 c.toNat
  else [c]

/-- The body of a string with escapes. A quotation mark stands for itself when fewer than `limit`
of them precede it in a row. -/
def escapeFrom (multiline : Bool) (limit : Nat) : Nat → Text → Text
  | _, [] => []
  | run, c :: r =>
    if c = '"' then
      if run < limit then '"' :: escapeFrom multiline limit (run + 1) r
      else '\\' :: '"' :: escapeFrom multiline limit 0 r
    else escapeChar multiline c ++ escapeFrom multiline limit 0 r

def StringForm.body : StringForm → Text → Text
  | .basic, t => escapeFrom false 0 0 t
  | .multilineBasic, t => escapeFrom true 2 0 t
  | .literal, t | .multilineLiteral, t => t

/-- A string in a given form. One of several lines starts on a line of its own. -/
def StringForm.write (form : StringForm) (t : Text) : Text :=
  form.delimiter ++ (if form.multiline && t.contains '\n' then ['\n'] else []) ++ form.body t ++
    form.delimiter

def writeString (t : Text) : Text := (StringForm.choose t).write t

/-- Characters of a key that needs no quotes. -/
def isBareKeyChar (c : Char) : Bool := c.isAlphanum || c == '_' || c == '-'

/-- A key as it is written: bare if it can be, else in quotation marks or apostrophes. -/
def writeKey (k : Text) : Text :=
  if !k.isEmpty && k.all isBareKeyChar then k
  else
    let plain := !k.any fun c => needsEscape c || c == '\n'
    if plain && !k.contains '\\' && !k.contains '"' then StringForm.basic.write k
    else if plain && !k.contains '\'' then StringForm.literal.write k
    else StringForm.basic.write k

end SqlTemplate.Toml
