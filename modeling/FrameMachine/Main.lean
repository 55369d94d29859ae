import FrameMachine.CommandLine.Response

namespace FrameMachine

/-!
# The command line program

The outer layer: it looks at the files that the request names, hands what it found to
`CommandLine.respond`, and writes the response.
-/

/-- The file error that a failed access stands for. -/
def FileError.ofHost : IO.Error → FileError
  | .noFileOrDirectory _ _ _ => .notFound
  | .inappropriateType _ code _ => if code = 21 then .isDirectory else .notDirectory
  | .permissionDenied _ _ _ => .other "Permission denied (os error 13)"
  | error => .other (toString error)

/-- What reading at a path of the host gives. -/
def contentAt (path : Path) : IO (Except FileError (List UInt8)) := do
  try
    return .ok (← IO.FS.readBinFile ⟨path.text⟩).toList
  catch error =>
    return .error (.ofHost error)

/-- What stands at a path of the host.  What it is is asked before it is read, so that a
file which cannot be read is a file nevertheless. -/
def lookAt (path : Path) : IO (Except FileError FileEntry) := do
  try
    let found ← (System.mkFilePath [path.text]).metadata
    match found.type with
    | .dir => return .ok .directory
    | .file => return .ok (.regular (← contentAt path))
    | _ => return .ok (.special (← contentAt path))
  catch error =>
    return .error (.ofHost error)

/-- The file system of what was found at some paths of the host. -/
def FileSystem.ofFindings (findings : List (Path × Except FileError FileEntry)) : FileSystem where
  entry path := (findings.lookup path).getD (.error .notFound)

/-- What stands at some paths of the host. -/
def survey (paths : List Path) : IO (List (Path × Except FileError FileEntry)) :=
  paths.mapM fun path => return (path, ← lookAt path)

/-- The variables of the host that count. -/
def hostVariables : IO (List (String × String)) := do
  let names := [Environment.debugOutputName, Environment.statisticsName, Environment.inputName,
    CommandLine.Request.settingsFileName]
  let found ← names.mapM fun name => return (← IO.getEnv name).map fun value => (name, value)
  return found.filterMap id

/-- All bytes of a stream of the host. -/
def readAll (stream : IO.FS.Stream) : IO ByteArray := do
  let mut found := ByteArray.empty
  repeat
    let chunk ← stream.read 65536
    if chunk.isEmpty then break
    found := found ++ chunk
  return found

end FrameMachine

open FrameMachine

/-- Answer the request that the arguments make. -/
def main (arguments : List String) : IO UInt32 := do
  let directory ← IO.currentDir
  let environment : Environment := ⟨⟨directory.toString⟩, ← hostVariables⟩
  let request := CommandLine.Request.ofArguments environment arguments
  let named ← survey (CommandLine.filesOf environment request)
  let input := CommandLine.inputFile? (.ofFindings named) environment request
  let findings := named ++ (← survey input.toList)
  let standardInput ← match request, input with
    | .run _ _, none => do readAll (← IO.getStdin)
    | _, _ => pure ByteArray.empty
  let response := CommandLine.respond (.ofFindings findings) environment
    (.ofBytes standardInput.toList) request
  (← IO.getStdout).putStr response.output
  (← IO.getStderr).putStr response.diagnostics
  return UInt32.ofNat response.exitCode
