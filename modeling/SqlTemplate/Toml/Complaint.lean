import SqlTemplate.Toml.Document

/-! # Complaints about a document, with the place that they are about -/
namespace SqlTemplate.Toml

structure Complaint where
  /-- The bytes of the document that are at fault. -/
  span : Span
  message : Text
deriving DecidableEq, Repr

def lastLine (t : Text) : Text := (t.reverse.takeWhile (· != '\n')).reverse

/-- The line feeds before a byte offset, and the column there. The end of a text is one column
after its last character. A column counts characters, but bytes where a character of several bytes
stands. -/
def placeOf (document : Text) (offset : Nat) : Nat × Nat :=
  match document.splitAtByte offset with
  | (before, []) =>
    let before' := before.dropLast
    (before'.count '\n', (lastLine before').length + (before.length - before'.length))
  | (before, c :: _) =>
    let line := lastLine before
    (before.count '\n', if c.utf8Size = 1 then line.length else line.byteSize)

/-- The line of the given number, counted from zero. -/
def nthLine : Nat → Text → Text
  | 0, t => t.takeWhile (· != '\n')
  | n + 1, t => nthLine n ((t.dropWhile (· != '\n')).drop 1)

namespace Complaint

def ofFailure (document : Text) (f : Failure) : Complaint :=
  let size := match (document.splitAtByte f.offset).2 with
    | [] => 0
    | c :: _ => c.utf8Size
  ⟨⟨f.offset, f.offset + size⟩, f.message⟩

/-- The place, the line with the fault marked below it, and the message. -/
def render (document : Text) (c : Complaint) : Text :=
  let (line, column) := placeOf document c.span.start
  let number := Text.decimal (line + 1)
  let content := nthLine line document
  let gutter := List.replicate (number.length + 1) ' '
  let marks := max 1 (min c.span.size (content.byteSize - column))
  "TOML parse error at line ".toList ++ number ++ ", column ".toList ++ Text.decimal (column + 1) ++
    '\n' :: gutter ++ ['|', '\n'] ++
    number ++ [' ', '|', ' '] ++ content ++ '\n' ::
    gutter ++ '|' :: List.replicate (column + 1) ' ' ++ List.replicate marks '^' ++
    '\n' :: c.message ++ ['\n']

end Complaint

/-- The table that a text is, or why it is none. -/
def read (t : Text) : Except Complaint Node :=
  match document ⟨0, t⟩ with
  | .ok (node, _) => .ok node
  | .error f => .error (Complaint.ofFailure t f)

end SqlTemplate.Toml
