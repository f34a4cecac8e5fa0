import SqlTemplate.Command.UsageError

/-! # Reading the command line

Arguments are read from left to right. An option that stands apart from its value, or an input, is
settled only when the next parameter begins, so an argument that cannot be read at all is refused
before a wrong value just before it.
-/
namespace SqlTemplate.Command

structure Arguments where
  input : Option Text
  sql : Option Text
  config : Option Text
  unterminated : Option Policy
  format : Format
  explain : Bool
  verbosity : Nat
deriving DecidableEq, Repr

inductive Request where
  | help
  | run (a : Arguments)
deriving DecidableEq, Repr

/-- The parameters of a command line with their values, in order. A flag has the empty value. -/
abbrev Given := List (Parameter × Text)

namespace Given

def values (g : Given) (p : Parameter) : List Text := (g.filter fun e => e.1 = p).map Prod.snd

def value? (g : Given) (p : Parameter) : Option Text := (g.values p).head?

/-- The parameters given. One that is given again counts at the later place. -/
def used (g : Given) : List Parameter := (g.map Prod.fst).reverse.eraseDups.reverse

/-- Takes in a parameter with its value. -/
def add (g : Given) (p : Parameter) (value : Option Text) : Except UsageError Given :=
  if p.takesValue && value.isNone then .error (.valueMissing p)
  else
    let value := value.getD []
    if !p.repeatable && g.used.contains p then .error (.repeated p)
    else if p.allows value then .ok (g ++ [(p, value)])
    else if value.isEmpty then .error (.valueMissing p)
    else .error (.unknownValue p value)

/-- The arguments, unless two parameters do not go together. -/
def arguments (g : Given) : Except UsageError Arguments :=
  match g.used.filter fun p => p = .sql || p = .input with
  | [p, other] => .error (.conflict p other (g.used.filter (· ≠ other)))
  | _ =>
    .ok
      { input := g.value? .input
        sql := g.value? .sql
        config := g.value? .config
        unterminated := (g.value? .unterminated).bind Policy.ofName?
        format := ((g.value? .format).bind Format.ofName?).getD default
        explain := g.used.contains .explain
        verbosity := (g.values .verbose).length }

end Given

structure Reading where
  given : Given
  /-- A parameter not yet settled, with its value if that has come. -/
  pending : Option (Parameter × Option Text)

namespace Reading

def settle (r : Reading) : Except UsageError Given :=
  match r.pending with
  | none => .ok r.given
  | some (p, value) => r.given.add p value

/-- The parameters used when an argument cannot be read. One with a wrong value counts, but one
that may not be repeated is lost. -/
def used (r : Reading) : List Parameter :=
  match r.pending, r.settle with
  | _, .ok g => g.used
  | some (p, _), .error (.repeated _) => r.given.used.filter (· ≠ p)
  | some (p, some _), .error _ => r.given.used ++ [p]
  | _, .error _ => r.given.used

/-- Settles what is pending and takes in a parameter with its value. -/
def add (r : Reading) (p : Parameter) (value : Option Text) : Except UsageError Reading := do
  return ⟨← (← r.settle).add p value, none⟩

/-- Settles what is pending and leaves another parameter pending. -/
def await (r : Reading) (p : Parameter) (value : Option Text) : Except UsageError Reading := do
  return ⟨← r.settle, some (p, value)⟩

def hasInput (r : Reading) : Bool :=
  r.given.used.contains .input || r.pending.any fun e => e.1 = .input

/-- Reads an argument that is no option. -/
def plain (r : Reading) (argument : Text) : Except UsageError Reading :=
  if r.hasInput then .error (.surplus argument) else r.await .input (some argument)

/-- Reads an option given by its name, perhaps with a value behind an equals sign. The answer is
`none` if help is asked for. -/
def option (r : Reading) (argument : Text) : Except UsageError (Option Reading) :=
  let name := argument.takeWhile (· ≠ '=')
  let value := (argument.dropWhile (· ≠ '=')).tail?
  match Parameter.ofLong? name, value with
  | none, _ => .error (.unknownOption name r.used)
  | some p, some value =>
    if p.takesValue then (r.add p (some value)).map some
    else .error (.valueSurplus p value r.given.isEmpty)
  | some p, none =>
    if p.takesValue then (r.await p none).map some
    else if p = .help then (r.add p none).map fun _ => none
    else (r.add p none).map some

/-- Reads options given by one character each. The rest behind one that takes a value is its value.
The answer is `none` if help is asked for. -/
def flags (r : Reading) : Text → Except UsageError (Option Reading)
  | [] => .ok (some r)
  | c :: rest =>
    match Parameter.ofShort? c with
    | none => .error (.unknownFlag c)
    | some p =>
      if p.takesValue then
        match rest with
        | [] => (r.await p none).map some
        | '=' :: value => (r.add p (some value)).map some
        | value => (r.add p (some value)).map some
      else do
        let next ← r.add p none
        if p = .help then return none
        next.flags rest

/-- Reads arguments that are no options, whatever they look like. -/
def inputs (r : Reading) : List Text → Except UsageError Reading
  | [] => .ok r
  | argument :: rest => do (← r.plain argument).inputs rest

/-- Reads a command line to its end. The answer is `none` if help is asked for. -/
def all (r : Reading) : List Text → Except UsageError (Option Reading)
  | [] => .ok (some r)
  | argument :: rest =>
    match argument with
    | ['-', '-'] => (r.inputs rest).map some
    | '-' :: '-' :: option => do
      match ← r.option option with
      | some next => next.all rest
      | none => return none
    | '-' :: c :: more => do
      match ← r.flags (c :: more) with
      | some next => next.all rest
      | none => return none
    | _ =>
      match r.pending with
      | some (p, none) => Reading.all ⟨r.given, some (p, some argument)⟩ rest
      | _ => do (← r.plain argument).all rest

end Reading

def Request.read (arguments : List Text) : Except UsageError Request := do
  match ← Reading.all ⟨[], none⟩ arguments with
  | none => return .help
  | some r => return .run (← (← r.settle).arguments)

end SqlTemplate.Command
