import SqlTemplate.SettingsFile

/-! # A directory of files kept in memory -/
namespace SqlTemplate.Command

structure Directory where
  /-- Names, which may lead through inner directories, and contents. -/
  files : List (Text × ByteArray)

namespace Directory

def components (path : Text) : List Text := path.splitOn '/'

def content? (d : Directory) (place : List Text) : Option ByteArray :=
  (d.files.find? fun f => components f.1 == place).map Prod.snd

def hasDirectory (d : Directory) (place : List Text) : Bool :=
  place.isEmpty || d.files.any fun f =>
    place.isPrefixOf (components f.1) && components f.1 != place

/-- Places inside of the directory by the names that lead there; `none` is a directory outside. -/
abbrev Place := Option (List Text)

def enter (d : Directory) (place : Place) (name : Text) : Except FileError Place :=
  if place.any fun p => (d.content? p).isSome then .error .notDirectory
  else if name.isEmpty || name == ['.'] then .ok place
  else if name == ['.', '.'] then
    .ok (place.bind fun p => if p.isEmpty then none else some p.dropLast)
  else if Text.byteSize name > 255 then .error .nameTooLong
  else
    match place with
    | none => .error .notFound
    | some p =>
      let next := p ++ [name]
      if (d.content? next).isSome || d.hasDirectory next then .ok (some next)
      else .error .notFound

/-- Reads the file at a path. Outside of the directory there are no files. -/
def read (d : Directory) (path : Text) : FileText := do
  if Text.byteSize path > 4095 then throw .nameTooLong
  let start : Place := if path.head? = some '/' then none else some []
  match (← (components path).foldlM d.enter start).bind d.content? with
  | some bytes => decodeUtf8 bytes
  | none => throw .isDirectory

end Directory

end SqlTemplate.Command
