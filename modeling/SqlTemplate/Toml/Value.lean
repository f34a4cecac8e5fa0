import SqlTemplate.Toml.Binary64
import SqlTemplate.Toml.Reader
import SqlTemplate.Toml.StringForm

/-! # The data of a document, and how headers and dotted keys build its tables -/
namespace SqlTemplate.Toml

/-- Something with the bytes it was read from. Tables that are only implied have none. -/
structure Located (α : Type) where
  value : α
  span : Option Span
deriving Repr

structure Key where
  name : Text
  span : Span
deriving DecidableEq, Repr

/-- What brought a table into being. -/
inductive Origin where
  /-- The document itself, or a header. -/
  | header
  /-- The path of a header that leads through the table. -/
  | implied
  | dotted
  | braces
deriving DecidableEq, Repr

inductive Value where
  | string (t : Text)
  | integer (n : Int)
  | float (x : Binary64)
  | boolean (b : Bool)
  | moment
  | array (items : List (Located Value))
  | table (origin : Origin) (entries : List (Key × Located Value))
  /-- The tables of a repeated header. -/
  | tables (items : List (Located Value))
deriving Repr

abbrev Node := Located Value

/-- The entries of a table, in the order of their keys. -/
abbrev Entries := List (Key × Node)

def Value.kind : Value → Text
  | .string _ => "string".toList
  | .integer _ => "integer".toList
  | .float _ => "float".toList
  | .boolean _ => "boolean".toList
  | .moment => "datetime".toList
  | .array _ => "array".toList
  | .table .braces _ => "inline table".toList
  | .table _ _ => "table".toList
  | .tables _ => "array of tables".toList

namespace Entries

def get? (es : Entries) (name : Text) : Option (Key × Node) :=
  List.find? (fun e => e.1.name == name) es

def replace (es : Entries) (name : Text) (node : Node) : Entries :=
  es.map fun e => if e.1.name == name then (e.1, node) else e

def erase (es : Entries) (name : Text) : Entries := es.filter fun e => !(e.1.name == name)

end Entries

def names (path : List Key) : List Text := path.map Key.name

/-- The kinds of key path that lead to a table. -/
inductive Way where
  /-- In a header. -/
  | header
  /-- A dotted key of a table with a header. -/
  | dotted
  /-- A dotted key between braces. -/
  | braced
deriving DecidableEq, Repr

/-- The origin of the tables made on the way. -/
def Way.origin : Way → Origin
  | .header => .implied
  | .dotted | .braced => .dotted

/-- Why a path may not lead through a table. Dotted keys do not add to a table that was written out
elsewhere, and nothing adds to one in braces. -/
def Way.obstacle? (way : Way) (passed : List Key) (key : Key) : Origin → Option Cause
  | .header => if way = .header then none else some (.duplicateKey key.name none)
  | .braces =>
    if way = .braced then some (.duplicateKey key.name none)
    else some (.extendsValue (names passed) "inline table".toList)
  | .implied | .dotted => none

/-- Applies a change to the table at the end of a path, after the keys passed already. Tables
missing on the way are made; in an array of tables the way leads through the last one. -/
def changeAt {α : Type} (way : Way) (change : Origin → Entries → Except Cause (α × Entries)) :
    List Key → List Key → Origin → Entries → Except Cause (α × Entries)
  | _, [], origin, es => change origin es
  | passed, k :: path, _, es =>
    let passed := passed ++ [k]
    match Entries.get? es k.name with
    | none => do
      let (a, sub) ← changeAt way change passed path way.origin []
      return (a, es ++ [(k, ⟨.table way.origin sub, none⟩)])
    | some (_, ⟨.table origin sub, span⟩) =>
      match way.obstacle? passed k origin with
      | some cause => .error cause
      | none => do
        let (a, sub) ← changeAt way change passed path origin sub
        return (a, Entries.replace es k.name ⟨.table origin sub, span⟩)
    | some (_, ⟨.tables items, span⟩) =>
      match items.getLast? with
      | some ⟨.table origin sub, itemSpan⟩ => do
        let (a, sub) ← changeAt way change passed path origin sub
        return (a, Entries.replace es k.name
          ⟨.tables (items.dropLast ++ [⟨.table origin sub, itemSpan⟩]), span⟩)
      | _ => .error (.extendsValue (names passed) (Value.tables items).kind)
    | some (_, ⟨v, _⟩) => .error (.extendsValue (names passed) v.kind)

/-- Adds an entry to the table at the end of a dotted key's path. A table that does not come from a
dotted key has no entries by one. `owner` is the path of the whole table, if it is to be told. -/
def addEntry (way : Way) (owner : Option (List Text)) (path : List Key) (key : Key) (node : Node)
    (origin : Origin) (es : Entries) : Except Cause Entries := do
  let add (o : Origin) (es : Entries) : Except Cause (Unit × Entries) :=
    if !path.isEmpty && o != .dotted then .error (.duplicateKey key.name none)
    else if (Entries.get? es key.name).isSome then .error (.duplicateKey key.name owner)
    else .ok ((), es ++ [(key, node)])
  return (← changeAt way add [] path origin es).2

end SqlTemplate.Toml
