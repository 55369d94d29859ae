import FrameMachine.Path
import FrameMachine.Stream

namespace FrameMachine

/-!
# File systems

A file system tells for every path what stands there, or why it cannot tell.  Whether
there is a file and whether the file can be read are two questions: a regular file may
be there and refuse to be read.
-/

/-- Why a file cannot be read. -/
inductive FileError where
  | notFound
  | notDirectory
  | isDirectory
  | nameTooLong
  | nulInName
  | invalidUtf8
  | other (message : String)
deriving DecidableEq

/-- The text of a file error. -/
def FileError.message : FileError → String
  | .notFound => "No such file or directory (os error 2)"
  | .notDirectory => "Not a directory (os error 20)"
  | .isDirectory => StreamFailure.isDirectory.message
  | .nameTooLong => "File name too long (os error 36)"
  | .nulInName => "file name contained an unexpected NUL byte"
  | .invalidUtf8 => "stream did not contain valid UTF-8"
  | .other message => message

/-- What stands at a path.  What can be read there is its content or the reason why there
is none.  A device or a pipe is special: it can be read but is not a regular file. -/
inductive FileEntry where
  | directory
  | regular (content : Except FileError (List UInt8))
  | special (content : Except FileError (List UInt8))

/-- A file system. -/
structure FileSystem where
  entry : Path → Except FileError FileEntry

namespace FileSystem

/-- Whether there is a regular file at a path. -/
def isFile (files : FileSystem) (path : Path) : Bool :=
  match files.entry path with
  | .ok (.regular _) => true
  | _ => false

/-- What reading at a path gives. -/
def read (files : FileSystem) (path : Path) : Except FileError (List UInt8) :=
  match files.entry path with
  | .ok (.regular content) | .ok (.special content) => content
  | .ok .directory => .error .isDirectory
  | .error error => .error error

/-- The text of the file at a path. -/
def readText (files : FileSystem) (path : Path) : Except FileError String :=
  match files.read path with
  | .ok bytes =>
      match InputStream.decode? bytes with
      | some text => .ok text
      | none => .error .invalidUtf8
  | .error error => .error error

/-- The stream of the file at a path.  A directory can be opened, and fails when it
is read. -/
def openInput (files : FileSystem) (path : Path) : Except FileError InputStream :=
  match files.entry path with
  | .ok .directory => .ok ⟨[], some .isDirectory⟩
  | .ok (.regular content) | .ok (.special content) => content.map .ofBytes
  | .error error => .error error

end FileSystem

end FrameMachine
