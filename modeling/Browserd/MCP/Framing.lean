import Mathlib.Data.List.DropRight
import Browserd.MCP.Transport

/-!
# Framing round trip

Whatever the chunks, the receive loops dispatch the terminated lines of the stream; so they
read back what `SerializeMCPTransportMessage` wrote, and agree with the stdio reader.
-/

namespace Browserd

open Lines

/-- The bytes the client has sent. -/
def received (chunks : List Chunk) : List UInt8 :=
  chunks.flatMap Chunk.bytes

theorem takeLines_of_idxOf? {buffer : List UInt8} {newlinePosition : Nat}
    (h : buffer.idxOf? newline = some newlinePosition) :
    takeLines buffer =
      (stripCarriageReturn (buffer.take newlinePosition) ::
          (takeLines (buffer.drop (newlinePosition + 1))).1,
        (takeLines (buffer.drop (newlinePosition + 1))).2) := by
  rw [takeLines]
  split
  · rename_i hnone
    simp [h] at hnone
  · rename_i position hsome
    obtain rfl : newlinePosition = position := by simpa [h] using hsome
    rfl

theorem takeLines_eq (buffer : List UInt8) :
    takeLines buffer =
      ((terminated newline buffer).map stripCarriageReturn, unterminated newline buffer) := by
  induction buffer using Lines.induction newline with
  | tail s hs =>
      have hnone : s.idxOf? newline = none := List.idxOf?_eq_none_iff.mpr hs
      rw [takeLines]
      split
      · simp [terminated_of_notMem hs, unterminated_of_notMem hs]
      · rename_i hsome
        simp [hnone] at hsome
  | line l rest hl ih =>
      have hpos : (l ++ newline :: rest).idxOf? newline = some l.length := by
        refine List.idxOf?_eq_some_iff.mpr ⟨by simp, by simp, ?_⟩
        intro j hj heq
        rw [List.getElem_append_left hj] at heq
        exact hl (heq ▸ List.getElem_mem hj)
      have hdrop : (l ++ newline :: rest).drop (l.length + 1) = rest := by
        rw [List.drop_append]
        simp
      rw [takeLines_of_idxOf? hpos, hdrop, ih, terminated_cons hl, unterminated_cons]
      simp

theorem takeLines_append (s t : List UInt8) :
    takeLines (s ++ t) =
      ((takeLines s).1 ++ (takeLines ((takeLines s).2 ++ t)).1,
        (takeLines ((takeLines s).2 ++ t)).2) := by
  simp only [takeLines_eq]
  rw [terminated_append, unterminated_append, List.map_append]

/-- Receiving chunk by chunk is splitting the stream at once. -/
theorem foldl_receive (chunks : List Chunk) (s : ReceiveState)
    (hbuffer : newline ∉ s.buffer) :
    chunks.foldl ReceiveState.receive s =
      ⟨unterminated newline (s.buffer ++ received chunks),
        s.lines ++
          (terminated newline (s.buffer ++ received chunks)).map stripCarriageReturn⟩ := by
  induction chunks generalizing s with
  | nil => simp [received, unterminated_of_notMem hbuffer, terminated_of_notMem hbuffer]
  | cons chunk chunks ih =>
      have hnext : newline ∉ (s.receive chunk).buffer := by
        rw [ReceiveState.receive, takeLines_eq]
        exact notMem_unterminated newline _
      have hcons : s.buffer ++ received (chunk :: chunks) =
          (s.buffer ++ chunk.bytes) ++ received chunks := by simp [received]
      rw [List.foldl_cons, ih _ hnext, hcons,
        terminated_append newline (s.buffer ++ chunk.bytes),
        unterminated_append newline (s.buffer ++ chunk.bytes)]
      simp [ReceiveState.receive, takeLines_eq]

/-- The receive loops of the two platforms. -/
def receiveLoops : List (List Chunk → ReceiveState) :=
  [Posix.receiveLoop, Win.receiveLoop]

theorem receiveLoop_eq {loop : List Chunk → ReceiveState} (hloop : loop ∈ receiveLoops)
    (chunks : List Chunk) :
    loop chunks =
      ⟨unterminated newline (received chunks),
        (terminated newline (received chunks)).map stripCarriageReturn⟩ := by
  have hfold := foldl_receive chunks .empty (by simp [ReceiveState.empty])
  simp only [receiveLoops, List.mem_cons, List.not_mem_nil, or_false] at hloop
  rcases hloop with rfl | rfl
  · simpa [Posix.receiveLoop, ReceiveState.empty] using hfold
  · simpa [Win.receiveLoop, ReceiveState.empty] using hfold

section Parsing

variable {json : JSONCodec} (hjson : json.Documented)

include hjson

theorem parse_eq_readDict (line : List UInt8) :
    parseMCPTransportLine json line = json.readDict line := by
  cases line with
  | nil => simp [parseMCPTransportLine, hjson.readDict_nil]
  | cons b line => simp [parseMCPTransportLine]

/-- The reader does not see the carriage return the receive loops remove. -/
theorem parse_stripCarriageReturn (line : List UInt8) :
    parseMCPTransportLine json (stripCarriageReturn line) = parseMCPTransportLine json line := by
  rw [parse_eq_readDict hjson, parse_eq_readDict hjson, stripCarriageReturn]
  split
  · rename_i hlast
    obtain ⟨text, rfl⟩ := List.getLast?_eq_some_iff.mp hlast
    rw [List.dropLast_concat, hjson.readDict_carriageReturn]
  · rfl

theorem dispatched_eq {loop : List Chunk → ReceiveState} (hloop : loop ∈ receiveLoops)
    (chunks : List Chunk) :
    dispatched json (loop chunks) =
      (terminated newline (received chunks)).filterMap (parseMCPTransportLine json) := by
  rw [receiveLoop_eq hloop, dispatched, List.filterMap_map]
  congr 1
  funext line
  exact parse_stripCarriageReturn hjson line

/-- Serialized messages are lines that the parser reads back. -/
theorem serialized_lines (messages : List DictValue) (wire : List (List UInt8))
    (hwire : messages.mapM (serializeMCPTransportMessage json) = some wire) :
    ∃ lines, wire.flatten = join newline lines ∧ (∀ line ∈ lines, newline ∉ line) ∧
      lines.filterMap (parseMCPTransportLine json) = messages := by
  induction messages generalizing wire with
  | nil =>
      obtain rfl : [] = wire := by simpa using hwire
      exact ⟨[], by simp, by simp, by simp⟩
  | cons message messages ih =>
      simp only [List.mapM_cons, serializeMCPTransportMessage, Option.bind_eq_bind,
        Option.bind_eq_some_iff, Option.map_eq_some_iff, Option.pure_def,
        Option.some.injEq] at hwire
      obtain ⟨_, ⟨text, htext, rfl⟩, rest, hrest, rfl⟩ := hwire
      obtain ⟨lines, hjoin, hlines, hparse⟩ := ih rest hrest
      refine ⟨text :: lines, ?_, ?_, ?_⟩
      · simp [hjoin]
      · simpa using ⟨hjson.write_noRawNewline htext, hlines⟩
      · have hread : parseMCPTransportLine json text = some message := by
          rw [parse_eq_readDict hjson, hjson.readDict_write htext]
        rw [List.filterMap_cons_some hread, hparse]

end Parsing

private theorem ne_newline_of_notMem {l : List UInt8} (hl : newline ∉ l) :
    ∀ b ∈ l, (b != newline) = true := by
  intro b hb
  simp only [bne_iff_ne, ne_eq]
  rintro rfl
  exact hl hb

private theorem getline_of_notMem {s : List UInt8} (hs : newline ∉ s) (hne : s ≠ []) :
    getline s = some (s, []) := by
  have hall := ne_newline_of_notMem hs
  have htake := @List.takeWhile_append_of_pos _ (· != newline) s [] hall
  have hdrop := @List.dropWhile_append_of_pos _ (· != newline) s [] hall
  simp only [List.append_nil, List.takeWhile_nil, List.dropWhile_nil] at htake hdrop
  simp [getline, hne, htake, hdrop]

private theorem getline_cons {l : List UInt8} (hl : newline ∉ l) (rest : List UInt8) :
    getline (l ++ newline :: rest) = some (l, rest) := by
  have hall := ne_newline_of_notMem hl
  simp [getline, List.takeWhile_append_of_pos hall, List.dropWhile_append_of_pos hall]

private theorem readLoop_of_getline {json : JSONCodec} {s line rest : List UInt8}
    (h : getline s = some (line, rest)) :
    readLoop json s = (parseMCPTransportLine json line).toList ++ readLoop json rest := by
  rw [readLoop]
  split
  · rename_i hnone
    simp [h] at hnone
  · rename_i line' rest' hsome
    obtain ⟨rfl, rfl⟩ : line = line' ∧ rest = rest' := by simpa [h] using hsome
    cases parseMCPTransportLine json line <;> rfl

private theorem readLoop_nil (json : JSONCodec) : readLoop json [] = [] := by
  rw [readLoop]
  split
  · rfl
  · rename_i hsome
    simp [getline] at hsome

/-- The stdio reader also parses what follows the last newline. -/
theorem readLoop_eq (json : JSONCodec) (s : List UInt8) :
    readLoop json s =
      (terminated newline s).filterMap (parseMCPTransportLine json) ++
        (parseMCPTransportLine json (unterminated newline s)).toList := by
  induction s using Lines.induction newline with
  | tail s hs =>
      rw [terminated_of_notMem hs, unterminated_of_notMem hs]
      by_cases hne : s = []
      · subst hne
        simp [readLoop_nil, parseMCPTransportLine]
      · rw [readLoop_of_getline (getline_of_notMem hs hne), readLoop_nil]
        simp
  | line l rest hl ih =>
      rw [readLoop_of_getline (getline_cons hl rest), ih, terminated_cons hl, unterminated_cons]
      cases hparse : parseMCPTransportLine json l with
      | none => simp [hparse]
      | some message => simp [hparse]

def NewlineTerminated (stream : List UInt8) : Prop :=
  ∀ last, stream.getLast? = some last → last = newline

theorem NewlineTerminated.unterminated_eq_nil {stream : List UInt8}
    (h : NewlineTerminated stream) : unterminated newline stream = [] := by
  by_contra hne
  have hlast : stream.getLast? = some ((unterminated newline stream).getLast hne) := by
    conv_lhs => rw [← join_terminated newline stream]
    rw [List.getLast?_append_of_ne_nil _ hne, List.getLast?_eq_getLast_of_ne_nil hne]
  have hmem := List.getLast_mem hne
  rw [h _ hlast] at hmem
  exact notMem_unterminated newline stream hmem

/-- Any chunking of serialized messages is read back as those messages; any chunking of any
stream gives its terminated lines, and what the stdio reader makes of them. -/
theorem framing_roundTrip {json : JSONCodec} (hjson : json.Documented) :
    (∀ (messages : List DictValue) (wire : List (List UInt8)) (chunks : List Chunk),
        messages.mapM (serializeMCPTransportMessage json) = some wire →
        received chunks = wire.flatten →
        ∀ loop ∈ receiveLoops,
          dispatched json (loop chunks) = messages ∧ (loop chunks).buffer = []) ∧
      (∀ chunks : List Chunk, ∃ lines tail,
        received chunks = join newline lines ++ tail ∧
          (∀ line ∈ lines, newline ∉ line) ∧ newline ∉ tail ∧
          ∀ loop ∈ receiveLoops,
            (loop chunks).lines = lines.map stripCarriageReturn ∧ (loop chunks).buffer = tail) ∧
      ∀ chunks : List Chunk, NewlineTerminated (received chunks) →
        ∀ loop ∈ receiveLoops,
          dispatched json (loop chunks) = readLoop json (received chunks) := by
  refine ⟨?_, ?_, ?_⟩
  · intro messages wire chunks hwire hchunks loop hloop
    obtain ⟨lines, hjoin, hlines, hparse⟩ := serialized_lines hjson messages wire hwire
    have hterminated : terminated newline (received chunks) = lines := by
      simpa [hchunks, hjoin, terminated_of_notMem] using terminated_join hlines []
    have htail : unterminated newline (received chunks) = [] := by
      simpa [hchunks, hjoin, unterminated_of_notMem] using unterminated_join newline lines []
    refine ⟨?_, ?_⟩
    · rw [dispatched_eq hjson hloop, hterminated, hparse]
    · rw [receiveLoop_eq hloop]
      exact htail
  · intro chunks
    refine ⟨terminated newline (received chunks), unterminated newline (received chunks),
      (join_terminated newline _).symm, fun _ => notMem_of_mem_terminated,
      notMem_unterminated newline _, ?_⟩
    intro loop hloop
    rw [receiveLoop_eq hloop]
    exact ⟨rfl, rfl⟩
  · intro chunks hterminated loop hloop
    rw [dispatched_eq hjson hloop, readLoop_eq, hterminated.unterminated_eq_nil]
    simp [parseMCPTransportLine]

/-- The text of the empty object. -/
def emptyObject : List UInt8 := [123, 125]

/-- A codec that knows only the empty object, and white space of one kind. -/
def emptyObjectJSON : JSONCodec where
  write message := if message.isEmpty then some emptyObject else none
  readDict text := if text.rdropWhile (· == carriageReturn) = emptyObject then some [] else none

theorem emptyObjectJSON_documented : emptyObjectJSON.Documented where
  write_noRawNewline {message text} h := by
    obtain ⟨-, rfl⟩ : message = [] ∧ emptyObject = text := by simpa [emptyObjectJSON] using h
    decide
  readDict_write {message text} h := by
    obtain ⟨rfl, rfl⟩ : message = [] ∧ emptyObject = text := by simpa [emptyObjectJSON] using h
    rfl
  readDict_carriageReturn text := by
    simp [emptyObjectJSON, List.rdropWhile_concat_pos]
  readDict_nil := rfl

/-- Two messages, the first split inside its object and the newline of the second one late. -/
def sampleChunks : List Chunk :=
  [⟨[123], by decide, by decide⟩, ⟨[125, 10, 123, 125], by decide, by decide⟩,
    ⟨[10], by decide, by decide⟩]

theorem framing_roundTrip_sample :
    dispatched emptyObjectJSON (Posix.receiveLoop sampleChunks) = [[], []] ∧
      (Win.receiveLoop sampleChunks).buffer = [] ∧
      dispatched emptyObjectJSON (Win.receiveLoop sampleChunks) =
        readLoop emptyObjectJSON (received sampleChunks) := by
  obtain ⟨hmessages, -, hstdio⟩ := framing_roundTrip emptyObjectJSON_documented
  have hloops := hmessages [[], []] [emptyObject ++ [newline], emptyObject ++ [newline]]
    sampleChunks rfl (by decide)
  refine ⟨(hloops Posix.receiveLoop (by simp [receiveLoops])).1,
    (hloops Win.receiveLoop (by simp [receiveLoops])).2, ?_⟩
  refine hstdio sampleChunks ?_ Win.receiveLoop (by simp [receiveLoops])
  intro last hlast
  have hten : (received sampleChunks).getLast? = some newline := by decide
  simpa [hten] using hlast.symm

end Browserd
