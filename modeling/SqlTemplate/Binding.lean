import SqlTemplate.Statement

/-! # Binding rendered patterns to the parameters of a statement -/
namespace SqlTemplate

/-- Renders a pattern such as `%d [%t] %m` for an event. -/
abbrev Layout (Event : Type) := Text → Event → Text

/-- A statement with one value for each of its placeholders. -/
structure Bound where
  sql : Text
  values : List Text
deriving DecidableEq, Repr

/-- The values with the numbers of their parameters, which start at one. -/
def Bound.params (b : Bound) : List (Nat × Text) :=
  b.values.zipIdx.map fun (value, i) => (i + 1, value)

def Statement.bind {Event : Type} (s : Statement) (layout : Layout Event) (event : Event) : Bound :=
  ⟨s.sql, s.patterns.map fun pattern => layout pattern event⟩

namespace Layout

/-- The pattern and the event on either side of an equals sign. -/
def paired : Layout Text := fun pattern event => pattern ++ '=' :: event

/-- The pattern with each of the given replacements made in turn, and the event in place of
`%event` at last. -/
def substituting (replacements : List (Text × Text)) : Layout Text := fun pattern event =>
  (replacements.foldl (fun t (old, new) => t.replace old new) pattern).replace "%event".toList event

end Layout

end SqlTemplate
