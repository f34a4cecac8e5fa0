import SqlTemplate.Binding
import SqlTemplate.Listing
import SqlTemplate.Report
import SqlTemplate.SettingsFile

/-! # Sessions: settings and a statement that a run of steps works on

A session keeps the settings in force, the last statement prepared, and the template that statement
came from. A step that fails changes nothing.
-/
namespace SqlTemplate

structure Session where
  settings : Settings
  statement : Statement
  source : Text
deriving DecidableEq, Repr

namespace Session

/-- The session before any step: an empty template under the default policy. -/
def empty : Session := ⟨Settings.ofTemplate [], Statement.ofTemplate default [], []⟩

instance : Inhabited Session := ⟨empty⟩

inductive Step where
  /-- Settings from a TOML document. -/
  | load (document : Text)
  /-- Settings for a template, under the default policy. -/
  | renew (template : Text)
  | choose (policy : Policy)
  /-- Prepares the template of the settings. -/
  | prepareOwn
  | prepare (template : Text)
  /-- Prepares a template under the default policy. -/
  | prepareDefault (template : Text)
  /-- Prepares the SQL of the last statement. -/
  | prepareAgain
  /-- Prepares a pattern of the last statement, counted from zero. -/
  | preparePattern (index : Nat)
  /-- Asks if the last statement is that of a template under the default policy. -/
  | compare (template : Text)
  | parts
  | bind (layout : Layout Text) (event : Text)
  | write (format : Format)
  | explain (filename : Text)

inductive Answer where
  | settings (s : Settings)
  | noSettings (e : SettingsError)
  | statement (s : Statement)
  | refused (e : OpenLiteral)
  | noPattern
  | same (holds : Bool)
  | parts (sql : Text) (patterns : List Text)
  | bound (b : Bound)
  | text (t : Text)
deriving DecidableEq, Repr

def Answer.isFailure : Answer → Bool
  | .noSettings _ | .refused _ | .noPattern => true
  | _ => false

def withSettings (s : Session) (settings : Settings) : Session × Answer :=
  ({ s with settings := settings }, .settings settings)

/-- Keeps the statement of a template, if it has one under the policy. -/
def keep (s : Session) (policy : Policy) (template : Text) : Session × Answer :=
  match SqlTemplate.prepare policy template with
  | .ok statement => ({ s with statement := statement, source := template }, .statement statement)
  | .error e => (s, .refused e)

def step (s : Session) : Step → Session × Answer
  | .load document =>
    match Settings.ofText document with
    | .ok settings => s.withSettings settings
    | .error e => (s, .noSettings e)
  | .renew template => s.withSettings (Settings.ofTemplate template)
  | .choose policy => s.withSettings { s.settings with policy := policy }
  | .prepareOwn => s.keep s.settings.policy s.settings.template
  | .prepare template => s.keep s.settings.policy template
  | .prepareDefault template => s.keep default template
  | .prepareAgain => s.keep s.settings.policy s.statement.sql
  | .preparePattern index =>
    match s.statement.patterns[index]? with
    | some pattern => s.keep s.settings.policy pattern
    | none => (s, .noPattern)
  | .compare template => (s, .same (s.statement = Statement.ofTemplate default template))
  | .parts => (s, .parts s.statement.sql s.statement.patterns)
  | .bind layout event => (s, .bound (s.statement.bind layout event))
  | .write format => (s, .text (s.statement.write format))
  | .explain filename => (s, .text (s.statement.explain s.source filename))

/-- The session after some steps, and an answer for each of them. -/
def run (s : Session) : List Step → Session × List Answer
  | [] => (s, [])
  | a :: steps =>
    let (next, answer) := s.step a
    let (last, answers) := next.run steps
    (last, answer :: answers)

@[simp] theorem run_nil (s : Session) : s.run [] = (s, []) := rfl

@[simp] theorem run_cons (s : Session) (a : Step) (steps : List Step) :
    s.run (a :: steps) =
      (((s.step a).1.run steps).1, (s.step a).2 :: ((s.step a).1.run steps).2) := rfl

end Session

end SqlTemplate
