import SqlTemplate.Toml.Value

/-! # A document put together from its headers and entries -/
namespace SqlTemplate.Toml

/-- A document as read so far: the tables that are complete, and the one under the last header. -/
structure Assembly where
  root : Entries
  rootSpan : Span
  /-- Where the current table goes. Before the first header it is the root itself. -/
  path : List Key
  /-- Whether its header is one of an array of tables. -/
  repeated : Bool
  /-- From its header to its last value. -/
  span : Span
  entries : Entries

namespace Assembly

def empty : Assembly := ⟨[], ⟨0, 0⟩, [], false, ⟨0, 0⟩, []⟩

/-- The path to the table that holds the one at a path, and the key in it. -/
def splitLast? (path : List Key) : Option (List Key × Key) :=
  path.getLast?.map fun k => (path.dropLast, k)

/-- A header names a table that is there already. -/
def duplicate (path : List Key) (key : Key) : Cause :=
  .duplicateKey (writeKey key.name) (some (names path))

/-- The span from the first table to the last one. -/
def hull? (items : List Node) : Option Span := do
  let first ← (← items.head?).span
  let last ← (← items.getLast?).span
  return ⟨first.start, last.stop⟩

def close (a : Assembly) : Except Cause (Entries × Span) :=
  match splitLast? a.path with
  | none => .ok (a.entries, a.span)
  | some (path, key) => do
    let node : Node := ⟨.table .header a.entries, some a.span⟩
    let insert (_ : Origin) (es : Entries) : Except Cause (Unit × Entries) :=
      match Entries.get? es key.name with
      | none =>
        .ok ((), es ++ [(key, if a.repeated then ⟨.tables [node], some a.span⟩ else node)])
      | some (_, ⟨.tables items, _⟩) =>
        if a.repeated then
          let items := items ++ [node]
          .ok ((), Entries.replace es key.name ⟨.tables items, hull? items⟩)
        else .error (duplicate path key)
      | some _ => .error (duplicate path key)
    return ((← changeAt .header insert [] path .header a.root).2, a.rootSpan)

/-- Starts the table of a header. One that a longer header implied before keeps its entries. -/
def openTable (a : Assembly) (path : List Key) (span : Span) : Except Cause Assembly := do
  let (root, rootSpan) ← a.close
  match splitLast? path with
  | none => return { a with root, rootSpan }
  | some (parent, key) =>
    let take (_ : Origin) (es : Entries) : Except Cause (Entries × Entries) :=
      match Entries.get? es key.name with
      | none => .ok ([], es)
      | some (_, ⟨.table .implied sub, _⟩) => .ok (sub, Entries.erase es key.name)
      | some _ => .error (duplicate parent key)
    let (entries, root) ← changeAt .header take [] parent .header root
    return ⟨root, rootSpan, path, false, span, entries⟩

/-- Starts one more table of an array of tables. -/
def openRepeated (a : Assembly) (path : List Key) (span : Span) : Except Cause Assembly := do
  let (root, rootSpan) ← a.close
  match splitLast? path with
  | none => return { a with root, rootSpan }
  | some (parent, key) =>
    let check (_ : Origin) (es : Entries) : Except Cause (Unit × Entries) :=
      match Entries.get? es key.name with
      | none | some (_, ⟨.tables _, _⟩) => .ok ((), es)
      | some _ => .error (duplicate parent key)
    let (_, root) ← changeAt .header check [] parent .header root
    return ⟨root, rootSpan, path, true, span, []⟩

def add (a : Assembly) (path : List Key) (key : Key) (node : Node) : Except Cause Assembly := do
  let entries ← addEntry .dotted (some (names a.path)) path key node .header a.entries
  return { a with entries, span := ⟨a.span.start, (node.span.map Span.stop).getD a.span.stop⟩ }

end Assembly

end SqlTemplate.Toml
