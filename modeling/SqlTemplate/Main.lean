import SqlTemplate.Command

/-! # The program -/
open SqlTemplate SqlTemplate.Command

namespace SqlTemplate.Command

/-- What a failed system call says about a file. -/
def fileError : IO.Error → FileError
  | .noFileOrDirectory .. => .notFound
  | .inappropriateType _ 21 _ => .isDirectory
  | .inappropriateType .. => .notDirectory
  | .invalidArgument _ _ "name too long" => .nameTooLong
  | e => .other e.toString.toList

def readText (bytes : IO ByteArray) : IO FileText := do
  try return decodeUtf8 (← bytes) catch e => return .error (fileError e)

def standardInput : IO Input := do
  let stdin ← IO.getStdin
  if ← stdin.isTty then return .terminal
  return ↑(← readText stdin.readBinToEnd)

/-- Asks the system for what a command line can need. -/
def surroundings (request : Except UsageError Request) : IO Surroundings := do
  let filter ← IO.getEnv "RUST_LOG"
  let files ← match request with
    | .ok (.run a) => a.paths.mapM fun path => do
      return (path, ← readText (IO.FS.readBinFile (String.ofList path)))
    | _ => pure []
  let input ← match request with
    | .ok (.run a) => if a.readsInput then standardInput else pure (.content (.ok []))
    | _ => pure (.content (.ok []))
  return ⟨fun path => (files.lookup path).getD (.error .notFound), input,
    filter.map String.toList⟩

end SqlTemplate.Command

def main (arguments : List String) : IO UInt32 := do
  let arguments := arguments.map String.toList
  let outcome := respond arguments (← surroundings (Request.read arguments))
  (← IO.getStderr).putStr (String.ofList outcome.errors)
  (← IO.getStdout).putStr (String.ofList outcome.output)
  return UInt32.ofNat outcome.code
