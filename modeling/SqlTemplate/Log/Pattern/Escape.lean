import SqlTemplate.Text

/-! # The modes of a pattern, and what a backslash introduces in it

A reading answers `none` where a pattern cannot be used, and otherwise also with the text that
remains.
-/
namespace SqlTemplate.Log.Pattern

/-- The options in force at a place of a pattern. -/
structure Mode where
  /-- A letter stands for both its cases. -/
  caseless : Bool
  /-- Patterns match characters, and no bytes. -/
  unicode : Bool
  /-- Blanks and comments in the pattern do not count. -/
  spaced : Bool
deriving DecidableEq, Repr

def Mode.initial : Mode := ⟨false, true, false⟩

/-- What is left behind blanks and comments, perhaps from within a comment. -/
def skipFrom : Bool → Text → Text
  | _, [] => []
  | true, c :: r => skipFrom (c ≠ '\n') r
  | false, c :: r =>
    if Text.isBlank c then skipFrom false r
    else if c = '#' then skipFrom true r
    else c :: r

/-- What is left behind what does not count. -/
def Mode.skip (m : Mode) (t : Text) : Text := if m.spaced then skipFrom false t else t

/-- A part of a pattern that is not made of others. -/
inductive Primitive where
  | literal (c : Char)
  /-- A literal by the number of its byte. -/
  | byte (c : Char)
  /-- Digits, blanks or the characters of words, or all others. -/
  | kind (negated : Bool)
  | border
  /-- The start or the end of a word, or any other place. -/
  | wordBorder
deriving DecidableEq, Repr

namespace Primitive

/-- Whether a pattern may have the part outside of brackets. There are no tables of letter case or
of the kinds of characters beyond ASCII, and what matches is well-formed UTF-8. -/
def isUsable (m : Mode) : Primitive → Bool
  | .literal _ => !(m.unicode && m.caseless)
  | .byte c => if m.unicode then !m.caseless else c.toNat < 0x80
  | .kind negated => !m.unicode && !negated
  | .border => true
  | .wordBorder => !m.unicode

/-- Whether brackets may have the part. Of bytes they have those of ASCII alone. -/
def isMember (m : Mode) : Primitive → Bool
  | .literal c | .byte c => if m.unicode then !m.caseless else c.toNat < 0x80
  | .kind negated => !m.unicode && !negated
  | .border | .wordBorder => false

def literal? : Primitive → Option Char
  | .literal c | .byte c => some c
  | _ => none

end Primitive

def hexDigit? (c : Char) : Option Nat :=
  if c.isDigit then some (c.toNat - '0'.toNat)
  else if 'a' ≤ c && c ≤ 'f' then some (10 + (c.toNat - 'a'.toNat))
  else if 'A' ≤ c && c ≤ 'F' then some (10 + (c.toNat - 'A'.toNat))
  else none

/-- The number that so many hexadecimal digits write, behind those of the given number. -/
def hexNumber (m : Mode) : Nat → Nat → Text → Option (Nat × Text)
  | 0, n, t => some (n, t)
  | digits + 1, n, t =>
    match m.skip t with
    | [] => none
    | c :: r => do hexNumber m digits (16 * n + (← hexDigit? c)) r

/-- The character whose number so many hexadecimal digits write. -/
def hexChar (m : Mode) (digits : Nat) (t : Text) : Option (Char × Text) := do
  let (n, rest) ← hexNumber m digits 0 t
  if n.isValidChar then return (Char.ofNat n, rest) else none

/-- The control characters that have a letter. -/
def control? : Char → Option Char
  | 'a' => some '\x07'
  | 't' => some '\t'
  | 'n' => some '\n'
  | 'v' => some '\x0b'
  | 'f' => some '\x0c'
  | 'r' => some '\r'
  | _ => none

/-- What a backslash introduces, by the text behind it. Backward references and properties of
characters are none. -/
def escape (m : Mode) : Text → Option (Primitive × Text)
  | [] => none
  | 'x' :: r => (hexChar m 2 r).map fun (c, rest) => (.byte c, rest)
  | 'u' :: r => (hexChar m 4 r).map fun (c, rest) => (.literal c, rest)
  | 'U' :: r => (hexChar m 8 r).map fun (c, rest) => (.literal c, rest)
  | c :: r =>
    if ['d', 's', 'w'].contains c then some (.kind false, r)
    else if ['D', 'S', 'W'].contains c then some (.kind true, r)
    else if ['A', 'z'].contains c then some (.border, r)
    else if ['b', 'B', '<', '>'].contains c then some (.wordBorder, r)
    else if c.toNat < 0x80 && !c.isAlphanum then some (.literal c, r)
    else (control? c).map fun d => (.literal d, r)

end SqlTemplate.Log.Pattern
