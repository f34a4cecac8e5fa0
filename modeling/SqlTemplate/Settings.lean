import SqlTemplate.Statement
import SqlTemplate.Toml.Complaint
import SqlTemplate.Visible

/-! # The settings of an appender, read from a TOML document

The document has a table with the template and may have one with the policy. Each of the two may
also be written as an array of its values, and the policy as a table with one empty entry. Other
keys do not count.
-/
namespace SqlTemplate

open Toml

structure Settings where
  template : Text
  policy : Policy
deriving DecidableEq, Repr

def Policy.name : Policy → Text
  | .verbatim => "verbatim".toList
  | .pattern => "pattern".toList
  | .reject => "reject".toList

def Policy.all : List Policy := [.verbatim, .pattern, .reject]

def Policy.ofName? (name : Text) : Option Policy := Policy.all.find? fun p => p.name == name

namespace Settings

/-- The settings for a template, with the policy that holds unless another one is chosen. -/
def ofTemplate (template : Text) : Settings := ⟨template, default⟩

def prepare (s : Settings) : Except OpenLiteral Statement := SqlTemplate.prepare s.policy s.template

inductive Misfit where
  | missing (field : String)
  | wrongKind (found : Text) (expected : String)
  | noTemplate
  | unknownPolicy (name : Text)
  | noPolicy
  | severalPolicies
  | notEmpty (kind : String)
  | notTable (found : Text)
  | notPolicy
deriving DecidableEq, Repr

def Misfit.message : Misfit → Text
  | .missing field => "missing field `".toList ++ field.toList ++ "`".toList
  | .wrongKind found expected =>
    "invalid type: ".toList ++ found ++ ", expected ".toList ++ expected.toList
  | .noTemplate => "invalid length 0, expected struct TomlAppender with 1 element".toList
  | .unknownPolicy name =>
    "unknown variant `".toList ++ name ++ "`, expected one of ".toList ++
      [',', ' '].intercalate (Policy.all.map fun p => "`".toList ++ p.name ++ "`".toList)
  | .noPolicy => "wanted exactly 1 element, found 0 elements".toList
  | .severalPolicies => "wanted exactly 1 element, more than 1 element".toList
  | .notEmpty kind => "expected empty ".toList ++ kind.toList
  | .notTable found => "expected table, found ".toList ++ found
  | .notPolicy => "wanted string or table".toList

/-- What a value is, where another kind of value is wanted. -/
def describe : Value → Text
  | .string t => "string ".toList ++ Visible.quoted t
  | .integer n => "integer `".toList ++ (toString n).toList ++ "`".toList
  | .float x => "floating point `".toList ++ x.render ++ "`".toList
  | .boolean b => "boolean `".toList ++ (toString b).toList ++ "`".toList
  | .moment | .table _ _ => "map".toList
  | .array _ | .tables _ => "sequence".toList

/-- A value decoded, or a misfit with its place if that is known. -/
abbrev Decoded (α : Type) := Except (Misfit × Option Span) α

/-- Gives a misfit the place of the node, or else that of its key. -/
def within {α : Type} (key : Option Key) (node : Node) (r : Decoded α) : Decoded α :=
  match r with
  | .ok a => .ok a
  | .error (m, place) => .error (m, place.or (node.span.or (key.map Key.span)))

def field {α : Type} (name : String) (es : Entries) (decode : Node → Decoded α) :
    Decoded (Option α) :=
  match Entries.get? es name.toList with
  | none => .ok none
  | some (key, node) => (within (some key) node (decode node)).map some

def refuse {α : Type} (m : Misfit) (node : Node) : Decoded α := .error (m, node.span)

def decodeTemplate (node : Node) : Decoded Text :=
  match node.value with
  | .string t => .ok t
  | v => refuse (.wrongKind (describe v) "a string") node

/-- The table with the template. -/
def decodeAppender (node : Node) : Decoded Text :=
  match node.value with
  | .table _ es => do
    match ← field "sql" es decodeTemplate with
    | some t => .ok t
    | none => refuse (.missing "sql") node
  | .moment => refuse (.missing "sql") node
  | .array (item :: _) | .tables (item :: _) => within none item (decodeTemplate item)
  | .array [] | .tables [] => refuse .noTemplate node
  | v => refuse (.wrongKind (describe v) "struct TomlAppender") node

def policyNamed (name : Text) (place : Option Span) : Decoded Policy :=
  match Policy.ofName? name with
  | some p => .ok p
  | none => .error (.unknownPolicy name, place)

/-- What stands under the name of a policy has to be empty. -/
def decodeNothing (node : Node) : Decoded Unit :=
  match node.value with
  | .table _ [] | .array [] | .tables [] => .ok ()
  | .table _ _ | .array _ => refuse (.notEmpty "table") node
  | .tables _ => refuse (.notEmpty "array") node
  | v => refuse (.notTable v.kind) node

def decodePolicy (node : Node) : Decoded Policy :=
  match node.value with
  | .string t => policyNamed t node.span
  | .table _ [] => refuse .noPolicy node
  | .table _ [(key, nothing)] => do
    let p ← policyNamed key.name (some key.span)
    decodeNothing nothing
    return p
  | .table _ _ => refuse .severalPolicies node
  | _ => refuse .notPolicy node

/-- The table with the policy. -/
def decodeParser (node : Node) : Decoded Policy :=
  match node.value with
  | .table _ es => return (← field "unterminated" es decodePolicy).getD default
  | .moment | .array [] | .tables [] => .ok default
  | .array (item :: _) | .tables (item :: _) => within none item (decodePolicy item)
  | v => refuse (.wrongKind (describe v) "struct ParserConfig") node

/-- Settings as far as their keys have come. -/
structure Partly where
  template : Option Text
  policy : Option Policy

/-- Takes in an entry of the document. -/
def decodeEntry (p : Partly) (e : Key × Node) : Decoded Partly :=
  let (key, node) := e
  if key.name = "appender".toList then do
    return { p with template := some (← within (some key) node (decodeAppender node)) }
  else if key.name = "parser".toList then do
    return { p with policy := some (← within (some key) node (decodeParser node)) }
  else .ok p

/-- The settings in a document, its entries decoded in order. -/
def decode (document : Node) : Decoded Settings :=
  match document.value with
  | .table _ es => do
    let p ← es.foldlM decodeEntry ⟨none, none⟩
    match p.template with
    | some t => return ⟨t, p.policy.getD default⟩
    | none => refuse (.missing "appender") document
  | v => refuse (.wrongKind (describe v) "struct TomlConfig") document

def read (t : Text) : Except Complaint Settings := do
  let document ← Toml.read t
  match decode document with
  | .ok s => .ok s
  | .error (m, place) => .error ⟨place.getD ⟨0, 0⟩, m.message⟩

end Settings

end SqlTemplate
