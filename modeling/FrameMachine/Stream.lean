import FrameMachine.Error

namespace FrameMachine

/-!
# Streams

The machine reads lines from one stream and writes texts to two.  Streams are
data: what is left to read, what has been written, and the failures to come.
-/

/-- A stream to read from: its remaining bytes and, unless it simply ends, the
failure that a reader meets behind them. -/
structure InputStream where
  bytes : List UInt8
  failure : Option StreamFailure
deriving DecidableEq

namespace InputStream

/-- The stream of the given bytes, which never fails. -/
def ofBytes (bytes : List UInt8) : InputStream := ⟨bytes, none⟩

/-- The byte that ends a line. -/
def lineEnd : UInt8 := 10

/-- The bytes up to and including the first line end, or all of them when there
is none, and the bytes behind them.  The flag tells whether a line end was
found. -/
def splitLine : List UInt8 → List UInt8 × List UInt8 × Bool
  | [] => ([], [], false)
  | byte :: rest =>
      if byte = lineEnd then ([byte], rest, true)
      else
        let (line, remaining, ended) := splitLine rest
        (byte :: line, remaining, ended)

/-- The next line with its line end, empty at the end of the stream, and the
stream behind it.  A line that does not end before the failure is lost. -/
def takeLine (stream : InputStream) : Except StreamFailure (List UInt8) × InputStream :=
  let (line, remaining, ended) := splitLine stream.bytes
  match ended, stream.failure with
  | false, some failure => (.error failure, { stream with bytes := [] })
  | _, _ => (.ok line, { stream with bytes := remaining })

/-- The text encoded by bytes, if they are UTF-8. -/
def decode? (bytes : List UInt8) : Option String :=
  String.fromUTF8? (ByteArray.mk bytes.toArray)

/-- A line without its end: one line feed, and before it one carriage return. -/
def chomp (line : List Char) : List Char :=
  let line := if line.getLast? = some '\n' then line.dropLast else line
  if line.getLast? = some '\r' then line.dropLast else line

end InputStream

/-- A stream to write to: what it holds, how many bytes it can hold, and the
failure of flushing it. -/
structure OutputStream where
  text : String
  capacity : Option Nat
  flushFailure : Option StreamFailure
deriving DecidableEq

namespace OutputStream

/-- An empty stream that never fails. -/
def unlimited : OutputStream := ⟨"", none, none⟩

/-- Whether the stream can take a further text.  The empty text always fits. -/
def accepts (stream : OutputStream) (text : String) : Bool :=
  match stream.capacity with
  | none => true
  | some capacity =>
      text.utf8ByteSize == 0 || stream.text.utf8ByteSize + text.utf8ByteSize ≤ capacity

/-- The stream with a text written to it, as a whole or not at all. -/
def write (stream : OutputStream) (text : String) : Except StreamFailure OutputStream :=
  if stream.accepts text then .ok { stream with text := stream.text ++ text }
  else .error .sinkFull

end OutputStream
end FrameMachine
