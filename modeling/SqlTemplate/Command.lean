import SqlTemplate.Command.Arguments
import SqlTemplate.Log.Filter
import SqlTemplate.Report
import SqlTemplate.SettingsFile

/-! # The command: from arguments and files to an exit code and what is printed -/
namespace SqlTemplate.Command

/-- The standard input. At a terminal no template is read from it. -/
inductive Input where
  | terminal
  | content (t : FileText)

instance : Coe FileText Input := ⟨.content⟩

/-- What a run can ask of the system. -/
structure Surroundings where
  file : Text → FileText
  input : Input
  /-- The log filter that is set, if one is. -/
  filter : Option Text

/-- A template and what it is called in reports. -/
structure Source where
  template : Text
  name : Text
deriving DecidableEq, Repr

/-- Why a run prints no statement. -/
inductive Failure where
  | settings (path : Text) (e : SettingsError)
  | file (path : Text) (e : FileError)
  /-- No template is given, and the standard input is a terminal. -/
  | noTemplate
  | input (e : FileError)
  | openLiteral (source : Source) (e : OpenLiteral)
deriving DecidableEq, Repr

def Failure.message : Failure → Text
  | .settings path e => "Error loading config '".toList ++ path ++ "': ".toList ++ e.message
  | .file path e => "Error reading file '".toList ++ path ++ "': ".toList ++ e.message
  | .noTemplate => "Error: no template given (pass FILE, --sql, --config or pipe stdin)".toList
  | .input e => "Error reading from stdin: ".toList ++ e.message
  | .openLiteral source e => e.report.render source.template source.name

def Failure.code : Failure → Nat
  | .noTemplate => 2
  | _ => 1

structure Outcome where
  code : Nat
  output : Text
  log : List Log.Event
  /-- What is printed behind the log. -/
  notice : Text
deriving DecidableEq, Repr

namespace Outcome

/-- The standard error output. -/
def errors (o : Outcome) : Text := o.log.flatMap Log.Event.line ++ o.notice

/-- A run that breaks off before its log is set up. The system's words on that are left out. -/
def brokenOff : Outcome := ⟨101, [], [], []⟩

end Outcome

namespace Arguments

/-- The settings, if a file with settings is given. -/
def settings (a : Arguments) (w : Surroundings) : Except Failure (Option Settings) :=
  match a.config with
  | none => .ok none
  | some path =>
    match Settings.ofFile (w.file path) with
    | .ok s => .ok (some s)
    | .error e => .error (.settings path e)

/-- The policy given, or else that of the settings. -/
def policy (a : Arguments) (settings : Option Settings) : Policy :=
  (a.unterminated.or (settings.map Settings.policy)).getD default

/-- The template given, or else that of the input file, of the settings, or of the standard
input. -/
def source (a : Arguments) (w : Surroundings) (settings : Option Settings) :
    Except Failure Source :=
  match a.sql, a.input, settings with
  | some template, _, _ => .ok ⟨template, "<sql>".toList⟩
  | none, some path, _ =>
    match w.file path with
    | .ok template => .ok ⟨template, path⟩
    | .error e => .error (.file path e)
  | none, none, some s => .ok ⟨s.template, "appender.sql".toList⟩
  | none, none, none =>
    match w.input with
    | .terminal => .error .noTemplate
    | .content (.ok template) => .ok ⟨template, "<stdin>".toList⟩
    | .content (.error e) => .error (.input e)

def resolve (a : Arguments) (w : Surroundings) : Except Failure (Policy × Source) := do
  let settings ← a.settings w
  return (a.policy settings, ← a.source w settings)

def statement (a : Arguments) (w : Surroundings) : Except Failure (Statement × Source) := do
  let (policy, source) ← a.resolve w
  match prepare policy source.template with
  | .ok s => return (s, source)
  | .error e => throw (.openLiteral source e)

/-- What a run does, in order. -/
def events (a : Arguments) (w : Surroundings) : List Log.Event :=
  (a.config.map Log.Event.loading).toList ++
    match a.resolve w with
    | .ok (policy, source) => Log.Event.ofTemplate policy source.template
    | .error _ => []

/-- The level up to which a run logs unless a filter is set. -/
def level (a : Arguments) : Log.Level :=
  match a.verbosity with
  | 0 => .warn
  | 1 => .debug
  | _ => .trace

/-- The filter that is set if it is one, or else that of the level. There is none if reading the one
that is set breaks off. -/
def filter? (a : Arguments) (w : Surroundings) : Option Log.Filter :=
  match w.filter.map Log.Filter.read with
  | some (.ok f) => some f
  | some (.error .insideCharacter) => none
  | some (.error .noDirective) | none => some (Log.Filter.upTo a.level)

def run (a : Arguments) (w : Surroundings) : Outcome :=
  match a.filter? w with
  | none => .brokenOff
  | some filter =>
    let log := (a.events w).filter filter.admits
    match a.statement w with
    | .ok (s, source) =>
      ⟨0, s.write a.format, log,
        if a.explain then s.explain source.template source.name ++ ['\n'] else []⟩
    | .error f => ⟨f.code, [], log, f.message ++ ['\n']⟩

def readsInput (a : Arguments) : Bool := a.sql.isNone && a.input.isNone && a.config.isNone

def paths (a : Arguments) : List Text := a.config.toList ++ a.input.toList

end Arguments

def respond (arguments : List Text) (w : Surroundings) : Outcome :=
  match Request.read arguments with
  | .error e => ⟨2, [], [], e.message⟩
  | .ok .help => ⟨0, help, [], []⟩
  | .ok (.run a) => a.run w

end SqlTemplate.Command
