import Browserd.Base.Values
import Browserd.Lib.Lines

/-!
# Message framing of the MCP transports

One JSON text on a line for each message. The JSON reader and writer of base are a parameter;
`JSONCodec.Documented` collects what the framing relies on. Text is kept as bytes.
-/

namespace Browserd

def newline : UInt8 := 10

def carriageReturn : UInt8 := 13

/-- `JSONWriter::Write` and `JSONReader::ReadDict` with `JSON_PARSE_RFC`. -/
structure JSONCodec where
  write : DictValue → Option (List UInt8)
  readDict : List UInt8 → Option DictValue

structure JSONCodec.Documented (json : JSONCodec) : Prop where
  write_noRawNewline {message : DictValue} {text : List UInt8} :
    json.write message = some text → newline ∉ text
  readDict_write {message : DictValue} {text : List UInt8} :
    json.write message = some text → json.readDict text = some message
  readDict_carriageReturn (text : List UInt8) :
    json.readDict (text ++ [carriageReturn]) = json.readDict text
  readDict_nil : json.readDict [] = none

def parseMCPTransportLine (json : JSONCodec) (line : List UInt8) : Option DictValue :=
  if line.isEmpty then none else json.readDict line

def serializeMCPTransportMessage (json : JSONCodec) (message : DictValue) :
    Option (List UInt8) :=
  (json.write message).map fun text => text ++ [newline]

/-- What one `recv` or `ReadFile` of `char chunk[4096]` can return, failures apart. -/
structure Chunk where
  bytes : List UInt8
  bytes_ne_nil : bytes ≠ []
  length_le : bytes.length ≤ 4096

def stripCarriageReturn (line : List UInt8) : List UInt8 :=
  if line.getLast? = some carriageReturn then line.dropLast else line

/-- The loop over `buffer.find('\n')`: the lines it dispatches and the buffer it leaves. -/
def takeLines (buffer : List UInt8) : List (List UInt8) × List UInt8 :=
  match h : buffer.idxOf? newline with
  | none => ([], buffer)
  | some newlinePosition =>
      let line := stripCarriageReturn (buffer.take newlinePosition)
      let rest := takeLines (buffer.drop (newlinePosition + 1))
      (line :: rest.1, rest.2)
termination_by buffer.length
decreasing_by
  obtain ⟨hlt, -⟩ := List.idxOf?_eq_some_iff.mp h
  rw [List.length_drop]
  omega

/-- The receive buffer and the lines passed to `DispatchLine` so far. -/
structure ReceiveState where
  buffer : List UInt8
  lines : List (List UInt8)

def ReceiveState.empty : ReceiveState := ⟨[], []⟩

/-- `buffer.append` and the loop after it, the same text on both platforms. -/
def ReceiveState.receive (s : ReceiveState) (chunk : Chunk) : ReceiveState :=
  let taken := takeLines (s.buffer ++ chunk.bytes)
  ⟨taken.2, s.lines ++ taken.1⟩

namespace Posix

/-- The successful receives of one client in the POSIX `RunLoop`. -/
def receiveLoop (chunks : List Chunk) : ReceiveState :=
  chunks.foldl ReceiveState.receive .empty

end Posix

namespace Win

/-- The successful receives of one client in the Windows `RunLoop`. -/
def receiveLoop (chunks : List Chunk) : ReceiveState :=
  chunks.foldl ReceiveState.receive .empty

end Win

/-- The dictionaries `DispatchLine` posts to the main thread. -/
def dispatched (json : JSONCodec) (s : ReceiveState) : List DictValue :=
  s.lines.filterMap (parseMCPTransportLine json)

/-- `std::getline`: `none` when no character could be extracted. -/
def getline (input : List UInt8) : Option (List UInt8 × List UInt8) :=
  if input.isEmpty then none
  else some (input.takeWhile (· != newline), (input.dropWhile (· != newline)).drop 1)

theorem getline_length_lt {input line rest : List UInt8} (h : getline input = some (line, rest)) :
    rest.length < input.length := by
  cases input with
  | nil => simp [getline] at h
  | cons b input =>
      simp only [getline, List.isEmpty_cons, Bool.false_eq_true, if_false, Option.some.injEq,
        Prod.mk.injEq] at h
      obtain ⟨-, rfl⟩ := h
      have hle := (List.dropWhile_suffix (· != newline) (l := b :: input)).length_le
      simp only [List.length_drop, List.length_cons] at hle ⊢
      omega

/-- The dictionaries `MCPStdioTransport::ReadLoop` posts to the main thread. -/
def readLoop (json : JSONCodec) (input : List UInt8) : List DictValue :=
  match _h : getline input with
  | none => []
  | some (line, rest) =>
      match parseMCPTransportLine json line with
      | none => readLoop json rest
      | some parsed => parsed :: readLoop json rest
termination_by input.length
decreasing_by all_goals exact getline_length_lt _h

end Browserd
