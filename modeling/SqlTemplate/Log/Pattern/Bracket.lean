import SqlTemplate.Log.Pattern.Escape

/-! # Brackets: the characters that one place of a pattern may have

Brackets hold characters, ranges of them, named classes and further brackets, and between those
operators that intersect or subtract. Of what has been read its height is kept: how deep its parts
nest.
-/
namespace SqlTemplate.Log.Pattern

/-- The height of parts in a row. A single part is no row. -/
def rowHeight : List Nat → Nat
  | [] => 0
  | [h] => h
  | hs => 1 + (hs.max?.getD 0)

structure Bracket where
  negated : Bool
  /-- The height of what is left of the last operator, if there is one. -/
  left : Option Nat
  /-- The heights of the parts behind it. -/
  parts : List Nat
deriving DecidableEq, Repr

namespace Bracket

def add (b : Bracket) (height : Nat) : Bracket := { b with parts := height :: b.parts }

/-- The height of all that the brackets hold so far. -/
def height (b : Bracket) : Nat :=
  match b.left with
  | none => rowHeight b.parts
  | some h => 1 + max h (rowHeight b.parts)

def operate (b : Bracket) : Bracket := { b with left := some b.height, parts := [] }

/-- Whether the brackets may be there. All bytes but some of ASCII are not well-formed UTF-8. -/
def isUsable (m : Mode) (b : Bracket) : Bool := m.unicode || !b.negated

end Bracket

/-- The hyphens at the start of brackets, which stand for themselves. -/
def hyphens (m : Mode) : Nat → Bracket → Text → Bracket × Text
  | n + 1, b, '-' :: r => hyphens m n (b.add 0) (m.skip r)
  | _, b, t => (b, t)

/-- Opens brackets, by the text behind the opening one. A closing bracket that comes first stands
for itself. -/
def openBracket (m : Mode) (t : Text) : Bracket × Text :=
  let (negated, t) :=
    match m.skip t with
    | '^' :: r => (true, m.skip r)
    | t => (false, t)
  match hyphens m t.length ⟨negated, none, []⟩ t with
  | (⟨negated, none, []⟩, ']' :: r) => (⟨negated, none, [0]⟩, m.skip r)
  | opened => opened

def classNames : List Text :=
  ["alnum", "alpha", "ascii", "blank", "cntrl", "digit", "graph", "lower", "print", "punct",
    "space", "upper", "word", "xdigit"].map String.toList

/-- A class by its name, such as `[:alpha:]`, or all characters but those of one. Tells which, and
gives the rest. -/
def namedClass? : Text → Option (Bool × Text)
  | '[' :: ':' :: r =>
    let (negated, r) :=
      match r with
      | '^' :: r => (true, r)
      | _ => (false, r)
    match r.dropWhile (· ≠ ':') with
    | ':' :: ']' :: rest =>
      if classNames.contains (r.takeWhile (· ≠ ':')) then some (negated, rest) else none
    | _ => none
  | _ => none

/-- A part of brackets that is a primitive one. -/
def member (m : Mode) (t : Text) : Option (Primitive × Text) := do
  let (p, rest) ← match t with
    | [] => none
    | '\\' :: r => escape m r
    | c :: r => some (.literal c, r)
  if p.isMember m then return (p, rest) else none

/-- The character behind a hyphen, which tells whether the hyphen makes a range. -/
def behindHyphen (m : Mode) (t : Text) : Option Char :=
  if !m.spaced then t.head?
  else
    match t.dropWhile Text.isBlank with
    | '#' :: r => (r.dropWhile Text.isBlank).head?
    | t => t.head?

/-- Reads a character, a range of characters, or a class of one letter. -/
def memberOrRange (m : Mode) (t : Text) : Option Text := do
  let (first, t) ← member m t
  match m.skip t with
  | '-' :: r =>
    if behindHyphen m r = some ']' || behindHyphen m r = some '-' then return '-' :: r
    else
      let (last, rest) ← member m (m.skip r)
      if (← first.literal?) ≤ (← last.literal?) then return rest else none
  | t => return t

/-- Reads so many parts of brackets, the innermost ones first, up to the end of the outermost.
Gives their height. -/
def bracketParts (m : Mode) : Nat → Bracket → List Bracket → Text → Option (Nat × Text)
  | 0, _, _, _ => none
  | n + 1, b, outer, t =>
    match m.skip t with
    | '[' :: r =>
      match namedClass? ('[' :: r) with
      | some (negated, rest) =>
        if (Primitive.kind negated).isMember m || (m.unicode && !m.caseless) then
          bracketParts m n (b.add 0) outer rest
        else none
      | none =>
        let (inner, rest) := openBracket m r
        bracketParts m n inner (b :: outer) rest
    | ']' :: r =>
      if !b.isUsable m then none
      else
        match outer with
        | [] => some (1 + b.height, r)
        | o :: outer => bracketParts m n (o.add (1 + b.height)) outer r
    | '&' :: '&' :: r | '-' :: '-' :: r | '~' :: '~' :: r => bracketParts m n b.operate outer r
    | t => do bracketParts m n (b.add 0) outer (← memberOrRange m t)

/-- Reads brackets to their end, by the text behind the opening one. -/
def bracket (m : Mode) (t : Text) : Option (Nat × Text) :=
  let (b, rest) := openBracket m t
  bracketParts m (t.length + 1) b [] rest

end SqlTemplate.Log.Pattern
