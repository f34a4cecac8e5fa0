import SqlTemplate.Text

/-! # The lines of a source, and the line of a position

Positions count characters. A carriage return with a line feed after it ends one line; so does any
other line break of Unicode.
-/
namespace SqlTemplate.Excerpt

/-- A line with its line break. -/
structure Line where
  /-- The position of its first character. -/
  offset : Nat
  text : Text
deriving DecidableEq, Repr

namespace Line

def span (l : Line) : Span := ⟨l.offset, l.offset + l.text.length⟩

/-- Line feed, vertical tab, form feed, carriage return, next line, and the separators of lines
and paragraphs. -/
def isBreak (c : Char) : Bool :=
  let n := c.toNat
  (10 ≤ n && n ≤ 13) || n == 0x85 || n == 0x2028 || n == 0x2029

/-- Puts a character in front of the first line, or makes a line of it. -/
def consText (c : Char) : List Text → List Text
  | t :: ts => (c :: t) :: ts
  | [] => [[c]]

def texts : Text → List Text
  | [] => []
  | c :: r =>
    if isBreak c && !(c == '\r' && r.head? == some '\n') then [c] :: texts r
    else consText c (texts r)

/-- Lines that start at the given position. -/
def placeFrom (offset : Nat) : List Text → List Line
  | [] => []
  | t :: ts => ⟨offset, t⟩ :: placeFrom (offset + t.length) ts

/-- The lines of a source. An empty source has none. -/
def split (source : Text) : List Line := placeFrom 0 (texts source)

end Line

/-- Looks for a position in lines of which the first has the given number. -/
def locateFrom (number position : Nat) : List Line → Option (Nat × Nat)
  | [] => none
  | l :: ls =>
    if position < l.span.stop || (ls.isEmpty && position == l.span.stop) then
      some (number, position - l.offset)
    else locateFrom (number + 1) position ls

/-- The line of a position and the position's column in it, both counted from zero. The position
after the last character belongs to the last line. -/
def locate? (lines : List Line) (position : Nat) : Option (Nat × Nat) := locateFrom 0 position lines

end SqlTemplate.Excerpt
