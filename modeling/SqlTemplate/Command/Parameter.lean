import SqlTemplate.Listing
import SqlTemplate.Settings

/-! # The parameters of the command line -/
namespace SqlTemplate.Command

inductive Parameter where
  | input
  | sql
  | config
  | unterminated
  | format
  | explain
  | verbose
  | help
deriving DecidableEq, Repr

namespace Parameter

/-- All but the one that is given by its position. -/
def options : List Parameter := [.sql, .config, .unterminated, .format, .explain, .verbose, .help]

def long : Parameter → Text
  | .input => []
  | .sql => "sql".toList
  | .config => "config".toList
  | .unterminated => "unterminated".toList
  | .format => "format".toList
  | .explain => "explain".toList
  | .verbose => "verbose".toList
  | .help => "help".toList

def short? : Parameter → Option Char
  | .config => some 'c'
  | .format => some 'f'
  | .verbose => some 'v'
  | .help => some 'h'
  | _ => none

def valueName? : Parameter → Option Text
  | .input => some "INPUT".toList
  | .sql => some "SQL".toList
  | .config => some "CONFIG".toList
  | .unterminated => some "UNTERMINATED".toList
  | .format => some "FORMAT".toList
  | _ => none

def takesValue (p : Parameter) : Bool := p.valueName?.isSome

def repeatable (p : Parameter) : Bool := p == .verbose || p == .help

/-- The values there are to choose from, if there is a choice. -/
def choices : Parameter → List Text
  | .unterminated => Policy.all.map Policy.name
  | .format => Format.all.map Format.name
  | _ => []

/-- Whether it takes a value. Paths are not empty. -/
def allows (p : Parameter) (value : Text) : Bool :=
  match p with
  | .unterminated | .format => p.choices.contains value
  | .input | .config => !value.isEmpty
  | _ => true

def ofLong? (name : Text) : Option Parameter := options.find? fun p => p.long == name

def ofShort? (c : Char) : Option Parameter := options.find? fun p => p.short? == some c

/-- As messages show it. -/
def shown (p : Parameter) : Text :=
  match p, p.valueName? with
  | .input, some value => '[' :: value ++ [']']
  | .verbose, _ => "--verbose...".toList
  | _, some value => "--".toList ++ p.long ++ ' ' :: '<' :: value ++ ['>']
  | _, none => "--".toList ++ p.long

/-- As it is named among others that it may stand for. -/
def named (p : Parameter) : Text :=
  match p, p.valueName? with
  | .input, some value => value
  | _, _ => p.shown

end Parameter

def programName : Text := "sql-log-pattern".toList

def usageLine (parts : List Text) : Text :=
  "Usage: ".toList ++ [' '].intercalate (programName :: parts)

/-- How to call the program, with the parameters that a call has used. -/
def usage (used : List Parameter) : Text :=
  let options := (used.filter (· ≠ .input)).eraseDups.map Parameter.shown
  let input := if .input ∈ used then "<INPUT>".toList else Parameter.input.shown
  usageLine ((if used.isEmpty then ["[OPTIONS]".toList] else options) ++ [input])

/-- The parameters that a run has a use for, as one to be chosen from. -/
def anyParameter : Text :=
  let named := ((Parameter.input :: Parameter.options).filter (· ≠ .help)).map Parameter.named
  '<' :: ['|'].intercalate named ++ ['>']

/-- How to call the program, with a parameter beside any others. -/
def usageAmongOthers (p : Parameter) : Text :=
  usageLine ((if p = .help then [p.shown] else []) ++ [anyParameter])

def help : Text :=
  ['\n'].intercalate (List.map String.toList
    ["Split a SQL log template into a prepared statement and its patterns",
      "",
      String.ofList (usage []),
      "",
      "Arguments:",
      "  [INPUT]  Template file (reads from stdin if no template is given otherwise)",
      "",
      "Options:",
      "      --sql <SQL>                    Template given inline",
      "  -c, --config <CONFIG>              Appender config file (TOML format)",
      "      --unterminated <UNTERMINATED>  Handling of a literal left open at end of input " ++
        "[possible values: verbatim, pattern, reject]",
      "  -f, --format <FORMAT>              Output format [default: text] " ++
        "[possible values: text, toml]",
      "      --explain                      Label every pattern literal in the template on stderr",
      "  -v, --verbose...                   More log output (-v debug, -vv trace)",
      "  -h, --help                         Print help",
      ""])

end SqlTemplate.Command
