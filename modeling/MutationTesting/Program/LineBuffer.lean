/-!
Line-buffered output. Whole lines are passed on at once; the start of a line waits until the
line is complete, the buffer is full or the output is flushed. Output that still waits is lost
when the process is killed.
-/

namespace MutationTesting

/-- Output that has been passed on and output that waits. -/
structure LineBuffer where
  written : List UInt8 := []
  pending : List UInt8 := []
deriving DecidableEq, Inhabited

namespace LineBuffer

/-- How many bytes can wait. -/
def capacity : Nat := 1024

def newline : UInt8 := 10

/-- The bytes up to the last end of a line, and the start of the line after it. -/
def splitLines (bytes : List UInt8) : List UInt8 × List UInt8 :=
  let rest := (bytes.reverse.takeWhile (· ≠ newline)).reverse
  (bytes.take (bytes.length - rest.length), rest)

/-- Everything that waits is passed on. -/
def flush (buffer : LineBuffer) : LineBuffer :=
  { written := buffer.written ++ buffer.pending, pending := [] }

/-- The start of a line is kept waiting when there is room for it. -/
def hold (buffer : LineBuffer) (bytes : List UInt8) : LineBuffer :=
  let buffer := if buffer.pending.length + bytes.length > capacity then buffer.flush else buffer
  if bytes.length ≥ capacity then
    { buffer with written := buffer.written ++ bytes }
  else
    { buffer with pending := buffer.pending ++ bytes }

/-- Bytes are written: complete lines pass at once. -/
def write (buffer : LineBuffer) (bytes : List UInt8) : LineBuffer :=
  match splitLines bytes with
  | ([], rest) => buffer.hold rest
  | (lines, rest) => hold { written := buffer.written ++ buffer.pending ++ lines } rest

def all (buffer : LineBuffer) : List UInt8 := buffer.written ++ buffer.pending

end LineBuffer

end MutationTesting
