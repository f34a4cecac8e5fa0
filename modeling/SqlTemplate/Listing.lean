import SqlTemplate.Statement
import SqlTemplate.Toml.StringForm

/-! # Statements written out: as lines of text, and as a TOML document -/
namespace SqlTemplate

/-- The ways to write a statement out. -/
inductive Format where
  | text
  | toml
deriving DecidableEq, Repr

instance : Inhabited Format := ⟨.text⟩

namespace Format

def all : List Format := [.text, .toml]

def name : Format → Text
  | .text => "text".toList
  | .toml => "toml".toList

def ofName? (name : Text) : Option Format := all.find? fun f => f.name == name

end Format

namespace Statement

/-- A pattern with the number of its placeholder, on a line of its own. -/
def patternLine (number : Nat) (pattern : Text) : Text :=
  Text.decimal number ++ ':' :: ' ' :: pattern ++ ['\n']

/-- The statement on the first line, then a line for each pattern. -/
def listing (s : Statement) : Text :=
  s.sql ++ ['\n'] ++ s.patterns.zipIdx.flatMap fun (pattern, i) => patternLine (i + 1) pattern

/-- The statement and its patterns under one key each. -/
def toToml (s : Statement) : Text :=
  "parameterized_sql = ".toList ++ Toml.writeString s.sql ++ "\npatterns = [".toList ++
    [',', ' '].intercalate (s.patterns.map Toml.writeString) ++ "]\n".toList

def write (s : Statement) : Format → Text
  | .text => s.listing
  | .toml => s.toToml

end Statement

end SqlTemplate
