import RildHisi.CString

/-!
Owns the line reader of atchannel.c as the code computes it: the static buffer
`s_ATBuffer`, the cursor `s_ATBufferCur`, `findNextEOL` and `readline`.

The buffer is the list of its bytes; a position past the array reads as NUL.
`read()` is given by the chunks the descriptor still delivers: an empty chunk
is an `EINTR`, and no chunk left is end of file or a read error.
-/

namespace RildHisi.AtChannel

/-- `MAX_AT_RESPONSE`. -/
def maxAtResponse : Nat := 8 * 1024

def isNewline (c : UInt8) : Bool := c == 13 || c == 10

/-- The SMS prompt `"> "`, the one line that no newline ends. -/
def smsPrompt : CString := [62, 32]

/-- The statics of the input buffering. `readEnd` is not a variable of the
source: it records where the last `p_read` stood, the end of the bytes read so
far. -/
structure ReaderState where
  sAtBuffer : List UInt8
  sAtBufferCur : Nat
  readEnd : Nat
  deriving DecidableEq

/-- The statics at program start. -/
def ReaderState.initial : ReaderState where
  sAtBuffer := List.replicate (maxAtResponse + 1) 0
  sAtBufferCur := 0
  readEnd := 0

namespace ReaderState

/-- The bytes from the cursor to the end of the array. -/
def fromCursor (st : ReaderState) : List UInt8 := st.sAtBuffer.drop st.sAtBufferCur

/-- `*s_ATBufferCur`. -/
def atCursor (st : ReaderState) : UInt8 := st.fromCursor.headD 0

/-- Store `bytes` at `position`. -/
def store (st : ReaderState) (position : Nat) (bytes : List UInt8) : ReaderState :=
  { st with
    sAtBuffer := st.sAtBuffer.take position ++ bytes ++
      st.sAtBuffer.drop (position + bytes.length) }

/-- `while (*s_ATBufferCur == '\r' || *s_ATBufferCur == '\n') s_ATBufferCur++;` -/
def skipNewlines (st : ReaderState) : ReaderState :=
  { st with sAtBufferCur := st.sAtBufferCur + (st.fromCursor.takeWhile isNewline).length }

/-- The empty-buffer branch, and the overflow branch that ditches the buffer. -/
def startOver (st : ReaderState) : ReaderState :=
  { st with sAtBufferCur := 0, readEnd := 0 }.store 0 [0]

/-- Move a partial line to the front: the `memmove` takes its NUL along. -/
def movePartialLine (st : ReaderState) : ReaderState :=
  let len := (cString st.fromCursor).length
  { st.store 0 (st.fromCursor.take (len + 1)) with sAtBufferCur := 0, readEnd := len }

/-- After a `read` of `bytes`: put a NUL behind them, skip over leading newlines,
and `p_read += count`. -/
def receive (st : ReaderState) (bytes : List UInt8) : ReaderState :=
  { (st.store st.readEnd (bytes ++ [0])).skipNewlines with
    readEnd := st.readEnd + bytes.length }

end ReaderState

/-- The scan of `findNextEOL`: the distance to the next newline, none at a NUL. -/
def scanEol : List UInt8 → Option Nat
  | [] => none
  | c :: rest =>
      if c = 0 then none
      else if isNewline c then some 0
      else (scanEol rest).map (· + 1)

/-- `findNextEOL(cur)`, as a distance from `cur`. The prompt ends at its NUL. -/
def findNextEol (cur : List UInt8) : Option Nat :=
  if cur.headD 0 = 62 ∧ (cur.drop 1).headD 0 = 32 ∧ (cur.drop 2).headD 0 = 0 then some 2
  else scanEol cur

/-- What `read()` still has to deliver, chunk by chunk. -/
abbrev Input := List (List UInt8)

/-- `do { count = read(s_fd, p_read, space); } while (count < 0 && errno == EINTR);`
A chunk longer than the space stays behind for the next `read`. -/
def readChunk (space : Nat) : Input → Option (List UInt8 × Input)
  | [] => none
  | [] :: input => readChunk space input
  | chunk :: input =>
      if chunk.length ≤ space then some (chunk, input)
      else some (chunk.take space, chunk.drop space :: input)

/-- A full line is in the buffer: place a NUL over its end and return it. -/
def takeLine (st : ReaderState) (eol : Nat) : CString × ReaderState :=
  (st.fromCursor.take eol,
    { st.store (st.sAtBufferCur + eol) [0] with
      sAtBufferCur := st.sAtBufferCur + eol + 1 })

def returnLine (st : ReaderState) (eol : Nat) (input : Input) :
    Option CString × ReaderState × Input :=
  (some (takeLine st eol).1, (takeLine st eol).2, input)

/-- The `while (p_eol == NULL)` loop; `st.readEnd` is `p_read`. Each round reads
at least one byte, so `fuel` counts the bytes that are left. -/
def readlineLoop : Nat → ReaderState → Input → Option CString × ReaderState × Input
  | 0, st, input => (none, st, input)
  | fuel + 1, st, input =>
      let st := if maxAtResponse - st.readEnd = 0 then st.startOver else st
      match readChunk (maxAtResponse - st.readEnd) input with
      | none => (none, st, [])
      | some (bytes, input) =>
          let st := st.receive bytes
          match findNextEol st.fromCursor with
          | some eol => returnLine st eol input
          | none => readlineLoop fuel st input

/-- `readline()`: the line it returns, or none for NULL. -/
def readline (st : ReaderState) (input : Input) : Option CString × ReaderState × Input :=
  let fuel := input.flatten.length + 1
  if st.atCursor = 0 then readlineLoop fuel st.startOver input
  else
    let st := st.skipNewlines
    match findNextEol st.fromCursor with
    | some eol => returnLine st eol input
    | none => readlineLoop fuel st.movePartialLine input

/-- Successive `readline()` calls, as `readerLoop` makes them, until NULL. -/
def readLines : Nat → ReaderState → Input → List CString × ReaderState
  | 0, st, _ => ([], st)
  | fuel + 1, st, input =>
      match readline st input with
      | (none, st, _) => ([], st)
      | (some line, st, input) =>
          let (lines, st) := readLines fuel st input
          (line :: lines, st)

end RildHisi.AtChannel
