import SqlTemplate.Toml.Assembly
import SqlTemplate.Toml.Moment

/-! # Reading a document -/
namespace SqlTemplate.Toml

open Reader

def simpleKey : Reader Text := do
  match ← peek? with
  | some '"' => basicString
  | some '\'' => literalString
  | _ => takeWhile1 isBareKeyChar

def keyPart : Reader Key := do
  blanks
  let (name, span) ← spanned simpleKey
  blanks
  return ⟨name, span⟩

def depthLimit : Nat := 80

/-- A key with its path: the parts between dots, and the last one. -/
def key : Reader (List Key × Key) :=
  convert
    (fun parts =>
      if depthLimit ≤ parts.length then .error .tooDeep
      else match Assembly.splitLast? parts with
        | some r => .ok r
        | none => .error .tooDeep)
    (inside .key (sepBy1 (char '.') keyPart))

def equalsSign : Reader Unit :=
  expecting [.literal ['.'], .literal ['=']] do
    let _ ← char '='

/-- What begins like no value is taken for a string without delimiters. -/
def unquoted {α : Type} (r : Reader α) : Reader α :=
  expecting [.literal ['"'], .literal ['\'']] (inside .string r)

def arrayItem (value : Reader Node) : Reader Node := do
  padding
  let v ← value
  padding
  return v

def arrayItems (value : Reader Node) : Reader (List Node) := do
  match ← peek? with
  | some ']' => return []
  | _ =>
    let items ← sepBy (char ',') (arrayItem value)
    unless items.isEmpty do
      let _ ← optional (char ',')
    padding
    return items

def array (value : Reader Node) : Reader Value := do
  let _ ← char '['
  let items ← commit (arrayItems value)
  let _ ← commit (inside .array (expecting [.literal [']']] (char ']')))
  return .array items

/-- An entry between braces. -/
def bracedEntry (value : Reader Node) : Reader ((List Key × Key) × Node) := do
  let k ← key
  commit do
    equalsSign
    blanks
    let v ← value
    blanks
    return (k, v)

def bracedEntries (value : Reader Node) : Reader Entries :=
  convert
    (fun es : List ((List Key × Key) × Node) =>
      es.foldlM (fun acc ((path, k), v) => addEntry .braced none path k v .braces acc) [])
    do
      let es ← sepBy (char ',') (bracedEntry value)
      blanks
      return es

def inlineTable (value : Reader Node) : Reader Value := do
  let _ ← char '\x7b'
  let es ← commit (bracedEntries value)
  let _ ← commit (inside .inlineTable (expecting [.literal ['\x7d']] (char '\x7d')))
  return .table .braces es

/-- A value. `nested` reads one that has others in it. -/
def valueWith (nested : Reader Value) : Reader Node := do
  let (v, span) ← spanned do
    match ← peek? with
    | none => fail
    | some '"' | some '\'' => return .string (← string)
    | some '[' | some '\x7b' => nested
    | some '_' => return .integer (← expecting [.leadingDigit] integer)
    | some '.' => return .float (← expecting [.leadingDigit] float)
    | some 't' => unquoted do
      let _ ← commit (word "true".toList)
      return .boolean true
    | some 'f' => unquoted do
      let _ ← commit (word "false".toList)
      return .boolean false
    | some 'i' => return .float (← unquoted (infinity false))
    | some 'n' => return .float (← unquoted notANumber)
    | some c =>
      if isSign c || c.isDigit then
        either (do moment; return .moment) <|
        either (do return .float (← float)) (do return .integer (← integer))
      else unquoted fail
  return ⟨v, some span⟩

def nestedValue (value : Reader Node) : Reader Value := do
  match ← peek? with
  | some '[' => array value
  | _ => inlineTable value

/-- A value that nests no deeper than given. -/
def valueWithin : Nat → Reader Node
  | 0 => valueWith (commit (refuse .tooDeep))
  | depth + 1 => valueWith (nestedValue (valueWithin depth))

def value : Reader Node := valueWithin (depthLimit - 1)

/-- A header between brackets, with its span, and the end of its line. -/
def header (opening closing : Text) : Reader (List Key × Span) := do
  let (path, span) ← spanned do
    let _ ← word opening
    let (path, last) ← commit key
    let _ ← commit (expecting [.literal ['.'], .literal closing] (word closing))
    return path ++ [last]
  commit restOfLine
  return (path, span)

def tableHeader (a : Assembly) : Reader Assembly :=
  inside .tableHeader do
    match (← remaining).take 2 with
    | ['[', '['] =>
      convert (fun (path, span) => a.openRepeated path span) (header ['[', '['] [']', ']'])
    | [_, _] => convert (fun (path, span) => a.openTable path span) (header ['['] [']'])
    | _ => fail

def entry (a : Assembly) : Reader Assembly :=
  convert (fun ((path, k), v) => a.add path k v) do
    let k ← key
    commit do
      equalsSign
      blanks
      let v ← value
      restOfLine
      return (k, v)

/-- Headers, entries, comments and empty lines, at most the given number. -/
def lines : Nat → Assembly → Reader Assembly
  | 0, a => return a
  | n + 1, a => do
    match ← peek? with
    | none => return a
    | some '#' =>
      commit do
        comment
        lineEnd
      blanks
      lines n a
    | some '[' =>
      let a ← commit (tableHeader a)
      blanks
      lines n a
    | some '\n' | some '\r' =>
      match ← optional newline with
      | none => return a
      | some _ =>
        blanks
        lines n a
    | some _ =>
      let a ← commit (entry a)
      blanks
      lines n a

/-- A document in full. A byte order mark may stand in front. -/
def documentText : Reader Assembly := do
  let _ ← optional (char '\ufeff')
  blanks
  let a ← lines (← remaining).length .empty
  endOfText
  return a

/-- The table that a document is. -/
def document : Reader Node :=
  convert
    (fun a => do
      let (es, span) ← a.close
        return ⟨.table .header es, some span⟩)
    documentText

end SqlTemplate.Toml
