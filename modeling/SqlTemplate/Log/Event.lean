import SqlTemplate.Statement

/-! # Log events and their lines -/
namespace SqlTemplate.Log

inductive Level where
  | error
  | warn
  | info
  | debug
  | trace
deriving DecidableEq, Repr

namespace Level

def all : List Level := [.error, .warn, .info, .debug, .trace]

/-- How much is logged if events of the level still are; zero is for none at all. -/
def verbosity : Level → Nat
  | .error => 1
  | .warn => 2
  | .info => 3
  | .debug => 4
  | .trace => 5

def name : Level → Text
  | .error => "ERROR".toList
  | .warn => "WARN".toList
  | .info => "INFO".toList
  | .debug => "DEBUG".toList
  | .trace => "TRACE".toList

end Level

structure Event where
  level : Level
  /-- The part of the program that the event is from, as a path. -/
  target : Text
  message : Text
  /-- Further data of the event, by name. -/
  fields : List (Text × Text)
deriving DecidableEq, Repr

namespace Event

def hasField (e : Event) (name : Text) : Bool :=
  name == "message".toList || e.fields.any fun (n, _) => n == name

/-- The level flush right in six columns, the message, and the fields. -/
def line (e : Event) : Text :=
  List.replicate (6 - e.level.name.length) ' ' ++ e.level.name ++ ' ' :: e.message ++
    e.fields.flatMap (fun (name, value) => ' ' :: name ++ '=' :: value) ++ ['\n']

def settingsTarget : Text := "sql_log_pattern::config".toList

def templateTarget : Text := "sql_log_pattern::parser::template".toList

/-- Settings are about to be loaded from a file. -/
def loading (path : Text) : Event :=
  ⟨.debug, settingsTarget, "loading appender config".toList, [("path".toList, path)]⟩

def policyTitle : Policy → Text
  | .verbatim => "Verbatim".toList
  | .pattern => "Pattern".toList
  | .reject => "Reject".toList

/-- A template has left a literal open, which starts at the given byte. -/
def openLiteral (start : Nat) (policy : Policy) : Event :=
  ⟨.warn, templateTarget, "SQL template ends inside a string literal".toList,
    [("start".toList, Text.decimal start), ("policy".toList, policyTitle policy)]⟩

def prepared (s : Statement) : Event :=
  ⟨.debug, templateTarget, "parsed SQL template".toList,
    [("segments".toList, Text.decimal s.segments.length),
      ("placeholders".toList, Text.decimal s.placeholderCount)]⟩

/-- What taking a template apart logs, whether or not the policy then refuses it. -/
def ofTemplate (policy : Policy) (template : Text) : List Event :=
  let s := Statement.ofTemplate policy template
  (s.openSpan.map fun span => openLiteral span.start policy).toList ++ [prepared s]

end Event

end SqlTemplate.Log
