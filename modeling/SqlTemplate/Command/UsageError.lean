import SqlTemplate.Command.Parameter
import SqlTemplate.Command.PlainText
import SqlTemplate.Command.Similarity

/-! # Command lines that cannot be read -/
namespace SqlTemplate.Command

inductive UsageError where
  /-- An option by a name that no option has, after the parameters used. -/
  | unknownOption (name : Text) (used : List Parameter)
  | unknownFlag (c : Char)
  /-- A second input. -/
  | surplus (argument : Text)
  | valueMissing (p : Parameter)
  | unknownValue (p : Parameter) (value : Text)
  /-- A value for an option that takes none, which is the first parameter or not. -/
  | valueSurplus (p : Parameter) (value : Text) (isFirst : Bool)
  | repeated (p : Parameter)
  /-- Two parameters that do not go together, and the parameters used but for the second. -/
  | conflict (p other : Parameter) (used : List Parameter)
deriving DecidableEq, Repr

namespace UsageError

/-- A text in quotes. What is quoted from the command line does not steer the terminal. -/
def inQuotes (t : Text) : Text := '\'' :: plainText t ++ ['\'']

def choicesLine (p : Parameter) : Text :=
  if p.choices.isEmpty then []
  else "\n  [possible values: ".toList ++ [',', ' '].intercalate p.choices ++ [']']

def passTip (argument : Text) : Text :=
  "\n\n  tip: to pass ".toList ++ inQuotes argument ++ " as a value, use ".toList ++
    inQuotes ("-- ".toList ++ argument)

def similarTip (kind : String) (name : Text) : Text :=
  "\n\n  tip: a similar ".toList ++ kind.toList ++ " exists: ".toList ++ inQuotes name

def unexpected (argument : Text) : Text :=
  "unexpected argument ".toList ++ inQuotes argument ++ " found".toList

/-- The option whose name is most like the one given. -/
def similarOption? (name : Text) : Option Parameter :=
  (mostSimilar? name (Parameter.options.map Parameter.long)).bind Parameter.ofLong?

/-- What is wrong, and how it may be put right. -/
def complaint : UsageError → Text
  | .unknownOption name _ =>
    let argument := "--".toList ++ name
    unexpected argument ++
      match similarOption? name with
      | some p => similarTip "argument" ("--".toList ++ p.long)
      | none => passTip argument
  | .unknownFlag c => unexpected ['-', c] ++ passTip ['-', c]
  | .surplus argument => unexpected argument
  | .valueMissing p =>
    "a value is required for ".toList ++ inQuotes p.shown ++ " but none was supplied".toList ++
      choicesLine p
  | .unknownValue p value =>
    "invalid value ".toList ++ inQuotes value ++ " for ".toList ++ inQuotes p.shown ++
      choicesLine p ++ ((mostSimilar? value p.choices).map (similarTip "value")).getD []
  | .valueSurplus p value _ =>
    "unexpected value ".toList ++ inQuotes value ++ " for ".toList ++ inQuotes p.shown ++
      " found; no more were expected".toList
  | .repeated p =>
    "the argument ".toList ++ inQuotes p.shown ++ " cannot be used multiple times".toList
  | .conflict p other _ =>
    "the argument ".toList ++ inQuotes p.shown ++ " cannot be used with ".toList ++
      inQuotes other.shown

/-- The line on usage. A wrong value does not get that line. -/
def usage? : UsageError → Option Text
  | .unknownOption name used => some (usage (used ++ (similarOption? name).toList))
  | .valueSurplus p _ isFirst => some (if isFirst then usage [p] else usageAmongOthers p)
  | .conflict _ _ used => some (usage used)
  | .unknownFlag _ | .surplus _ | .repeated _ => some (usage [])
  | .valueMissing _ | .unknownValue _ _ => none

def message (e : UsageError) : Text :=
  "error: ".toList ++ e.complaint ++
    ((e.usage?.map fun line => "\n\n".toList ++ line).getD []) ++
    "\n\nFor more information, try '--help'.\n".toList

end UsageError

end SqlTemplate.Command
