import SqlTemplate.Log.Alphanumeric
import SqlTemplate.Log.Pattern.Bracket

/-! # Patterns that the values of fields are held against

No event has a field with a value that a pattern could match, so it only matters whether a pattern
can be used. It is read from left to right, and of what has been read the height is kept.
-/
namespace SqlTemplate.Log.Pattern

/-- A part of a pattern. -/
inductive Item where
  /-- A change of the mode. -/
  | directive
  | term (height : Nat)
deriving DecidableEq, Repr

def Item.height : Item → Nat
  | .directive => 0
  | .term h => h

/-- A group that is open, or the whole pattern. -/
structure Group where
  /-- The mode to go on with behind the group. -/
  outside : Mode
  /-- The heights of the branches that are complete. -/
  branches : List Nat
  /-- The parts of the last branch, the last one first. -/
  items : List Item
deriving DecidableEq, Repr

namespace Group

def branchHeight (g : Group) : Nat := rowHeight (g.items.map Item.height)

def height (g : Group) : Nat :=
  match g.branches with
  | [] => g.branchHeight
  | hs => 1 + max g.branchHeight (hs.max?.getD 0)

def add (g : Group) (i : Item) : Group := { g with items := i :: g.items }

def branch (g : Group) : Group := { g with branches := g.branchHeight :: g.branches, items := [] }

/-- Repeats the last part, if there is one. -/
def repeatLast (g : Group) : Option Group :=
  match g.items with
  | .term h :: items => some { g with items := .term (1 + h) :: items }
  | _ => none

end Group

structure Reading where
  mode : Mode
  names : List Text
  group : Group
  /-- The groups around it, the innermost first. -/
  outer : List Group
deriving DecidableEq, Repr

def Reading.initial : Reading := ⟨.initial, [], ⟨.initial, [], []⟩, []⟩

/-- The options of a mode up to a colon or a closing parenthesis, which comes with the rest. None is
there twice, and there is one behind a hyphen. -/
def options (read : List Char) : Text → Option (List Char × Char × Text)
  | [] => none
  | c :: r =>
    if c = ':' || c = ')' then if read.head? = some '-' then none else some (read.reverse, c, r)
    else if ['i', 'm', 's', 'U', 'u', 'R', 'x', '-'].contains c && !read.contains c then
      options (c :: read) r
    else none

/-- The mode with options switched on, and those behind a hyphen switched off. -/
def Mode.change (m : Mode) (options : List Char) : Mode :=
  let switched (c : Char) (before : Bool) : Bool :=
    if (options.takeWhile (· ≠ '-')).contains c then true else before && !options.contains c
  ⟨switched 'i' m.caseless, switched 'u' m.unicode, switched 'x' m.spaced⟩

/-- The name of a group up to its closing angle bracket, and the rest. -/
def groupName (t : Text) : Option (Text × Text) :=
  let name := t.takeWhile (· ≠ '>')
  match name, t.dropWhile (· ≠ '>') with
  | c :: cs, '>' :: rest =>
    if (c = '_' || isAlphabetic c) &&
        cs.all fun d => isAlphanumeric d || ['_', '.', '[', ']'].contains d then
      some (name, rest)
    else none
  | _, _ => none

namespace Reading

def add (r : Reading) (i : Item) : Reading := { r with group := r.group.add i }

/-- Adds a primitive part, if a pattern may have it. -/
def addPrimitive (r : Reading) (usable : Bool) : Option Reading :=
  if usable then some (r.add (.term 0)) else none

/-- Opens a group with a mode of its own. -/
def enter (r : Reading) (mode : Mode) : Reading :=
  { r with mode := mode, group := ⟨r.mode, [], []⟩, outer := r.group :: r.outer }

def leave (r : Reading) : Option Reading :=
  match r.outer with
  | [] => none
  | g :: outer =>
    some { r with
      mode := r.group.outside
      group := g.add (.term (1 + r.group.height))
      outer := outer }

def enterNamed (r : Reading) (t : Text) : Option (Reading × Text) := do
  let (name, rest) ← groupName t
  if r.names.contains name then none
  else return ({ r with names := name :: r.names }.enter r.mode, rest)

/-- Opens a group, or changes the mode, by the text behind the opening parenthesis. -/
def parenthesis (r : Reading) (t : Text) : Option (Reading × Text) :=
  match r.mode.skip t with
  | '?' :: 'P' :: '<' :: t => r.enterNamed t
  | '?' :: '<' :: t => r.enterNamed t
  | '?' :: t => do
    let (options, last, rest) ← options [] t
    let mode := r.mode.change options
    if last = ':' then return (r.enter mode, rest)
    else if options.isEmpty then none
    else return ({ r with mode := mode }.add .directive, rest)
  | t => some (r.enter r.mode, t)

/-- Reads the next part. A number of repetitions would end with a closing brace, and the pattern of
a filter has none. -/
def step (r : Reading) (c : Char) (t : Text) : Option (Reading × Text) :=
  match c with
  | '(' => r.parenthesis t
  | ')' => r.leave.map fun r => (r, t)
  | '|' => some ({ r with group := r.group.branch }, t)
  | '?' | '*' | '+' => do
    let group ← r.group.repeatLast
    let rest := match t with
      | '?' :: rest => rest
      | _ => t
    return ({ r with group := group }, rest)
  | '\x7b' => none
  | '[' => do
    let (height, rest) ← bracket r.mode t
    return (r.add (.term height), rest)
  | '\\' => do
    let (p, rest) ← escape r.mode t
    return (← r.addPrimitive (p.isUsable r.mode), rest)
  | '.' => (r.addPrimitive r.mode.unicode).map fun r => (r, t)
  | '^' | '$' => some (r.add (.term 0), t)
  | c => (r.addPrimitive ((Primitive.literal c).isUsable r.mode)).map fun r => (r, t)

/-- Reads so many parts, up to the end of the text. -/
def all : Nat → Reading → Text → Option Reading
  | n, r, t =>
    match n, r.mode.skip t with
    | _, [] => some r
    | 0, _ => none
    | n + 1, c :: t => do
      let (r, rest) ← r.step c t
      all n r rest

end Reading

/-- How deep the parts of a pattern may nest. -/
def heightLimit : Nat := 250

def isUsable (t : Text) : Bool :=
  match Reading.all t.length .initial t with
  | some r => r.outer.isEmpty && r.group.height ≤ heightLimit
  | none => false

end SqlTemplate.Log.Pattern
