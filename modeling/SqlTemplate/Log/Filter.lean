import SqlTemplate.Log.Event
import SqlTemplate.Log.Pattern

/-! # Filters that decide which events are logged

A filter is a list of directives between commas, such as `warn`, `target=debug` or
`target[span{field}]=trace`. The most specific directive that applies to an event decides on it.
-/
namespace SqlTemplate.Log

/-- Why a text is not read as a filter. -/
inductive FilterError where
  /-- A part of it is no directive. -/
  | noDirective
  /-- It would be cut inside a character. Nothing goes on after that. -/
  | insideCharacter
deriving DecidableEq, Repr

structure Directive where
  /-- Applies to the targets that start so. -/
  target : Text
  /-- Applies inside of this span only. -/
  span : Option Text
  /-- Applies where there is this field, or this field with this value. -/
  field : Option (Text × Option Text)
  /-- The verbosity of the last level that is logged. -/
  verbosity : Nat
deriving DecidableEq, Repr

namespace Directive

/-- A number, which may have a plus sign. -/
def number? (t : Text) : Option Nat :=
  let digits := match t with
    | '+' :: r => r
    | _ => t
  if digits.isEmpty || !digits.all Char.isDigit then none
  else some (digits.foldl (fun n c => 10 * n + (c.toNat - '0'.toNat)) 0)

/-- The verbosity that a level stands for, by its name in either case or by its number. -/
def verbosity? (t : Text) : Option Nat :=
  let lower := t.map Char.toLower
  match (number? t).filter (· ≤ Level.trace.verbosity) with
  | some n => some n
  | none =>
    if lower = "off".toList then some 0
    else (Level.all.find? fun l => l.name.map Char.toLower == lower).map Level.verbosity

/-- The verbosity after an equals sign. Nothing there stands for everything. -/
def assigned? (t : Text) : Option Nat :=
  if t.isEmpty then some Level.trace.verbosity else verbosity? t

/-- A level for all targets, or a target for which everything is logged. -/
def bare (t : Text) : Directive :=
  match verbosity? t with
  | some v => ⟨[], none, none, v⟩
  | none => ⟨t, none, none, Level.trace.verbosity⟩

/-- What there is, or else no directive. -/
def found {α : Type} : Option α → Except FilterError α
  | some a => .ok a
  | none => .error .noDirective

def cut (t : Text) (start stop : Nat) : Except FilterError Text :=
  match t.cut? start stop with
  | some w => .ok w
  | none => .error .insideCharacter

def startsName (c : Char) : Bool := isAlphanumeric c || c == '-' || c == ':' || c == '_'

/-- Whether a text writes digits with perhaps a point and an exponent, or what is no such number. -/
def isNumber (t : Text) : Bool :=
  let whole := t.takeWhile Char.isDigit
  let (places, exponent) :=
    match t.dropWhile Char.isDigit with
    | '.' :: r => (r.takeWhile Char.isDigit, r.dropWhile Char.isDigit)
    | r => ([], r)
  ["inf", "infinity", "nan"].contains (String.ofList (t.map Char.toLower)) ||
    (!(whole ++ places).isEmpty &&
      match exponent with
      | [] => true
      | 'e' :: sign :: r | 'E' :: sign :: r =>
        sign.isDigit && r.all Char.isDigit ||
          (sign == '+' || sign == '-') && !r.isEmpty && r.all Char.isDigit
      | _ => false)

/-- Whether a field can have the value: a number with a plus sign, or a pattern, which no plus sign
can start. -/
def isValue : Text → Bool
  | '+' :: r => isNumber r
  | t => Pattern.isUsable t

/-- A field's name, and its value behind an equals sign. -/
def field? (t : Text) : Option (Text × Option Text) :=
  if t.isEmpty then none
  else match t.dropWhile (· ≠ '=') with
  | [] => some (t, none)
  | _ :: r =>
    let value := r.takeWhile (· ≠ '=')
    if isValue value then some (t.takeWhile (· ≠ '='), some value) else none

/-- The verbosity behind an equals sign at the offset. -/
def readVerbosity (given : Text) (offset : Nat) : Except FilterError Nat := do
  found (assigned? (← cut given (offset + 1) given.byteSize))

/-- The rest of a directive, behind its brackets. -/
def readEnd (target : Text) (span : Option Text) (field : Option (Text × Option Text))
    (given : Text) (offset : Nat) : Text → Except FilterError Directive
  | [] => return ⟨target, span, field, Level.trace.verbosity⟩
  | '=' :: _ => return ⟨target, span, field, ← readVerbosity given offset⟩
  | _ => throw .noDirective

/-- The rest of a directive, behind the brace that opens its field. -/
def readField (target span given : Text) (offset : Nat) (rest : Text) :
    Except FilterError Directive := do
  let field := rest.takeWhile (· ≠ '\x7d')
  let fieldEnd := offset + Text.byteSize field
  match rest.drop field.length with
  | [] => throw .noDirective
  | _ :: rest =>
    let field ← found (field? (← cut given offset fieldEnd))
    match rest with
    | ']' :: rest =>
      readEnd target (if span.isEmpty then none else some span) (some field) given (fieldEnd + 2)
        rest
    | _ => throw .noDirective

/-- The rest of a directive, behind its opening bracket. -/
def readBrackets (target given : Text) (offset : Nat) (rest : Text) :
    Except FilterError Directive := do
  let name := rest.takeWhile fun c => c ≠ ']' && c ≠ '\x7b'
  let nameEnd := offset + Text.byteSize name
  match rest.drop name.length with
  | [] => throw .noDirective
  | c :: rest =>
    let span ← cut given offset nameEnd
    if c = ']' then readEnd target (some span) none given (nameEnd + 1) rest
    else readField target span given (nameEnd + 1) rest

/-- A directive by its text. Blanks around it do not count for its form, though the byte offsets
found without the blanks before it are then taken in the text as it was given. -/
def read (given : Text) : Except FilterError Directive := do
  match Text.trim given with
  | [] => throw .noDirective
  | '[' :: rest => readBrackets [] given 1 rest
  | c :: rest =>
    if !startsName c then throw .noDirective
    let name := (c :: rest).takeWhile fun c => c ≠ '=' && c ≠ '['
    let nameEnd := Text.byteSize name
    match (c :: rest).drop name.length with
    | [] => return bare given
    | d :: rest =>
      let target ← cut given 0 nameEnd
      if d = '=' then return ⟨target, none, none, ← readVerbosity given nameEnd⟩
      readBrackets target given (nameEnd + 1) rest

/-- Spans and values of fields are known of spans only, and no event is in a span. -/
def appliesTo (d : Directive) (e : Event) : Bool :=
  d.span.isNone && d.target.isPrefixOf e.target &&
    match d.field with
    | none => true
    | some (name, none) => e.hasField name
    | some (_, some _) => false

/-- A longer target is more specific, then a field, then the later of two fields by name. -/
def atLeastAsSpecific (a b : Directive) : Bool :=
  b.target.length < a.target.length || (a.target.length == b.target.length &&
    match a.field, b.field with
    | _, none => true
    | none, some _ => false
    | some (x, _), some (y, _) => !decide (x < y))

end Directive

abbrev Filter := List Directive

namespace Filter

/-- Logs events up to a level from all targets. -/
def upTo (l : Level) : Filter := [⟨[], none, none, l.verbosity⟩]

/-- The most specific directive that applies, and the last of equally specific ones. -/
def decisive? (f : Filter) (e : Event) : Option Directive :=
  (f.filter fun d => d.appliesTo e).foldl (fun best d =>
    match best with
    | none => some d
    | some b => if d.atLeastAsSpecific b then some d else best) none

def admits (f : Filter) (e : Event) : Bool :=
  match f.decisive? e with
  | some d => e.level.verbosity ≤ d.verbosity
  | none => false

/-- The parts of a text between commas that are not empty. -/
def parts (t : Text) : List Text := (t.splitOn ',').filter fun p => !p.isEmpty

/-- A filter by its text. One without directives logs errors. -/
def read (t : Text) : Except FilterError Filter := do
  let directives ← (parts t).mapM Directive.read
  return if directives.isEmpty then upTo .error else directives

end Filter

end SqlTemplate.Log
