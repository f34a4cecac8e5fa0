import SqlTemplate.Token

/-! # Parameterized statements, and what to do with a literal left open

A literal that holds a `%` is a log pattern. A statement has a placeholder for each of them and
copies everything else.
-/
namespace SqlTemplate

/-- Stands in a statement where a pattern stood in the template. -/
def placeholder : Char := '?'

/-- Makes a literal a pattern. -/
def marker : Char := '%'

/-- The treatment of a literal that is open at the end of a template. -/
inductive Policy where
  /-- Copied as it stands. -/
  | verbatim
  /-- A pattern if it holds a marker, else copied. -/
  | pattern
  | reject
deriving DecidableEq, Repr

instance : Inhabited Policy := ⟨.verbatim⟩

inductive Kind where
  | plain
  | pattern
deriving DecidableEq, Repr

def Kind.classify (content : Text) : Kind := if marker ∈ content then .pattern else .plain

/-- A literal of a template. -/
structure Segment where
  kind : Kind
  /-- Its bytes in the template, quotes included. -/
  span : Span
  /-- What stands between the quotes, with doubled quotes collapsed. -/
  content : Text
  terminated : Bool
deriving DecidableEq, Repr

/-- A template taken apart: the statement to prepare and the patterns to bind to it. -/
structure Statement where
  sql : Text
  /-- In the order of their placeholders. -/
  patterns : List Text
  /-- All literals of the template, in order. -/
  segments : List Segment
  openSpan : Option Span
deriving DecidableEq, Repr

/-- The refusal of a template that leaves a literal open. -/
structure OpenLiteral where
  span : Span
  content : Text
deriving DecidableEq, Repr

namespace Token

def kind? (policy : Policy) : Token → Option Kind
  | .text _ => none
  | .literal content => some (Kind.classify content)
  | .unterminated content => some (if policy = .pattern then Kind.classify content else .plain)

def segment? (policy : Policy) : Token × Span → Option Segment
  | (.text _, _) => none
  | (.literal content, span) => some ⟨Kind.classify content, span, content, true⟩
  | (.unterminated content, span) =>
    some ⟨if policy = .pattern then Kind.classify content else .plain, span, content, false⟩

def emitted (policy : Policy) (t : Token) : Text :=
  if t.kind? policy = some .pattern then [placeholder] else t.source

end Token

namespace Statement

/-- The statement of a template, whether or not a literal is left open. -/
def ofTemplate (policy : Policy) (template : Text) : Statement :=
  let segments := (Token.placed template).filterMap (Token.segment? policy)
  { sql := (Token.scan template).flatMap (Token.emitted policy)
    patterns := (segments.filter fun s => s.kind = .pattern).map Segment.content
    segments := segments
    openSpan := (segments.find? fun s => !s.terminated).map Segment.span }

def placeholderCount (s : Statement) : Nat := s.patterns.length

/-- Whether there is anything to bind. -/
def isParameterized (s : Statement) : Bool := !s.patterns.isEmpty

end Statement

/-- The statement of a template. Only `Policy.reject` refuses one, for its open literal. -/
def prepare (policy : Policy) (template : Text) : Except OpenLiteral Statement :=
  let s := Statement.ofTemplate policy template
  match policy, s.segments.find? fun g => !g.terminated with
  | .reject, some g => .error ⟨g.span, g.content⟩
  | _, _ => .ok s

namespace OpenLiteral

def message (e : OpenLiteral) : Text :=
  "unterminated string literal at ".toList ++ Text.decimal e.span.start ++ "..".toList ++
    Text.decimal e.span.stop

/-- Whether a pattern is lost with the literal. -/
def holdsPattern (e : OpenLiteral) : Bool := marker ∈ e.content

end OpenLiteral

end SqlTemplate
