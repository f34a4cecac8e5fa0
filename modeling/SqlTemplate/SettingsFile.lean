import SqlTemplate.Settings

/-! # Settings loaded from a file -/
namespace SqlTemplate

inductive FileError where
  | notFound
  | notDirectory
  | isDirectory
  | nameTooLong
  | notUtf8
  /-- Anything else, by the system's words. -/
  | other (message : Text)
deriving DecidableEq, Repr

def FileError.message : FileError → Text
  | .notFound => "No such file or directory (os error 2)".toList
  | .notDirectory => "Not a directory (os error 20)".toList
  | .isDirectory => "Is a directory (os error 21)".toList
  | .nameTooLong => "File name too long (os error 36)".toList
  | .notUtf8 => "stream did not contain valid UTF-8".toList
  | .other message => message

def decodeUtf8 (bytes : ByteArray) : Except FileError Text :=
  match String.fromUTF8? bytes with
  | some s => .ok s.toList
  | none => .error .notUtf8

abbrev FileText := Except FileError Text

inductive SettingsError where
  | unreadable (e : FileError)
  | invalid (document : Text) (complaint : Toml.Complaint)
deriving DecidableEq, Repr

def SettingsError.message : SettingsError → Text
  | .unreadable e => "Failed to read config file: ".toList ++ e.message
  | .invalid document complaint =>
    "Failed to parse config TOML: ".toList ++ complaint.render document

namespace Settings

def ofText (t : Text) : Except SettingsError Settings :=
  match read t with
  | .ok s => .ok s
  | .error c => .error (.invalid t c)

def ofFile (file : FileText) : Except SettingsError Settings :=
  match file with
  | .ok t => ofText t
  | .error e => .error (.unreadable e)

end Settings

end SqlTemplate
