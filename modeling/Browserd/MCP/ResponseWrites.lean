import Browserd.Lib.WriteLoop
import Browserd.MCP.NamedPipe

/-!
# Responses are written in full

The loops of `SendSerializedResponse` on both platforms, with every answer of `send` and
`WriteFile`. On Windows the length of a response is cut to a `DWORD`, and what is cut off is lost
without a word.
-/

namespace Browserd

open Transition (Exec Step)
open WriteLoop (Stream Delivers Moves)

namespace Posix

/-- `errno` is looked at after a `send` that wrote nothing. -/
def SendResult.loopResult : SendResult → WriteLoop.Result
  | sent count => .wrote count
  | interrupted => .again
  | failed => .failed

/-- The bytes written to a connection. -/
def wroteTo (connection : Nat) (log : List IPCEvent) : List UInt8 :=
  log.flatMap fun | .wrote c _ bytes => if c = connection then bytes else [] | _ => []

namespace MCPIPCTransport

/-- A call of `SendSerializedResponse` with the answers of its calls of `send`. -/
def sendAll (request : Request) (serialized : List UInt8) (results : List SendResult)
    (s : MCPIPCTransport) : Option MCPIPCTransport :=
  results.foldlM (fun s result => s.send result) (s.sendSerializedResponse request serialized)

/-- The stream of the client of one generation, which is closed to its responses once it is not
the active client. -/
def clientStream (connection : Nat) (generation : UInt64) (s : MCPIPCTransport) : Stream UInt8 where
  written := wroteTo connection s.log
  closed := decide (s.activeClientFd = none ∨ s.activeClientGeneration ≠ generation)

/-- The transport in the loop, or behind it, that is at `w`. -/
structure SendingAs (request : Request) (fd connection : Nat) (before : List UInt8)
    (w : WriteLoop.State UInt8) (s : MCPIPCTransport) : Prop where
  written : wroteTo connection s.log = before ++ w.written
  mainThread : s.mainThread =
    if w.failed || w.remaining.isEmpty then .idle else .sending request w.remaining
  activeClientFd : s.activeClientFd = if w.failed then none else some fd
  generation : s.activeClientGeneration = request.clientGeneration
  connection : w.failed = false → s.connectionAt fd = some connection

variable {request : Request} {fd connection : Nat} {before serialized : List UInt8}
  {w : WriteLoop.State UInt8} {s t : MCPIPCTransport}

theorem wroteTo_wrote (c : Nat) (log : List IPCEvent) (request : Request) (bytes : List UInt8) :
    wroteTo c (log ++ [.wrote c request bytes]) = wroteTo c log ++ bytes := by
  simp [wroteTo]

theorem wroteTo_closed (c : Nat) (log : List IPCEvent) (socket : Option Socket) :
    wroteTo c (log ++ (socket.map .closed).toList) = wroteTo c log := by
  cases socket <;> simp [wroteTo]

/-- A call of `send` is a round of the loop. -/
theorem SendingAs.send {result : SendResult} (h : SendingAs request fd connection before w s)
    (hsend : s.send result = some t) :
    ∃ w', WriteLoop.step w result.loopResult = some w' ∧
      SendingAs request fd connection before w' t := by
  obtain ⟨hwritten, hmain, hfd, hgeneration, hconnection⟩ := h
  by_cases hended : (w.failed || w.remaining.isEmpty) = true
  · simp [MCPIPCTransport.send, hmain, hended] at hsend
  · have hfailed : w.failed = false := by
      simp only [Bool.or_eq_true, not_or, Bool.not_eq_true] at hended
      exact hended.1
    have hopen := hconnection hfailed
    simp only [hended, Bool.false_eq_true, if_false] at hmain
    simp only [hfailed, Bool.false_eq_true, if_false] at hfd
    cases result with
    | sent count =>
        simp only [MCPIPCTransport.send, hmain, hfd, hopen] at hsend
        split at hsend
        · rename_i hcount
          obtain rfl := Option.some.inj hsend
          refine ⟨⟨w.written ++ w.remaining.take count, w.remaining.drop count, false⟩, ?_, ?_⟩
          · simp [WriteLoop.step, SendResult.loopResult, hended, hcount]
          · refine ⟨?_, ?_, ?_, hgeneration, fun _ => hopen⟩
            · rw [← List.append_assoc, ← hwritten]
              exact wroteTo_wrote _ _ _ _
            · simp [sendRemaining, mainGoto]
            · rfl
        · cases hsend
    | interrupted =>
        simp only [MCPIPCTransport.send, hmain, hfd] at hsend
        obtain rfl := Option.some.inj hsend
        refine ⟨w, ?_, ⟨hwritten, ?_, ?_, hgeneration, hconnection⟩⟩
        · simp [WriteLoop.step, SendResult.loopResult, hended]
        · simp [hended, hmain]
        · simp [hfailed, hfd]
    | failed =>
        simp only [MCPIPCTransport.send, hmain, hfd] at hsend
        obtain rfl := Option.some.inj hsend
        refine ⟨{ w with failed := true }, ?_, ?_⟩
        · simp [WriteLoop.step, SendResult.loopResult, hended]
        · have hclose : (s.mainGoto .idle).closeActiveClient =
              { (s.mainGoto .idle).closeDescriptor fd with activeClientFd := none } := by
            simp [closeActiveClient, mainGoto, hfd]
          rw [hclose]
          refine ⟨?_, rfl, rfl, hgeneration, fun hcontra => absurd hcontra (by simp)⟩
          rw [← hwritten]
          exact wroteTo_closed _ _ _

theorem SendingAs.run {results : List SendResult}
    (hrun : Exec (Step fun s result => MCPIPCTransport.send result s) s results t)
    (h : SendingAs request fd connection before w s) :
    ∃ w', Exec (Step WriteLoop.step) w (results.map SendResult.loopResult) w' ∧
      SendingAs request fd connection before w' t := by
  induction hrun generalizing w with
  | nil s => exact ⟨w, .nil w, h⟩
  | cons head _ ih =>
      obtain ⟨next, hstep, hnext⟩ := h.send head
      obtain ⟨last, hrest, hlast⟩ := ih hnext
      exact ⟨last, .cons hstep hrest, hlast⟩

/-- Once the call has returned, the loop has ended. -/
theorem SendingAs.ended (h : SendingAs request fd connection before w s)
    (hreturned : s.mainThread = .idle) : w.Ended := by
  by_contra hgo
  rw [WriteLoop.State.Ended, not_or] at hgo
  have hmain := h.mainThread
  simp [hreturned, hgo.1, hgo.2] at hmain

/-- A response to a client that is not the active one is dropped, any other goes through the
loop. -/
theorem sendAll_run {results : List SendResult} (hidle : s.mainThread = .idle)
    (hclient : ∀ fd, s.activeClientFd = some fd → s.connectionAt fd = some connection)
    (hcall : s.sendAll request serialized results = some t) :
    ((s.clientStream connection request.clientGeneration).closed = true ∧ results = [] ∧ t = s) ∨
      ((s.clientStream connection request.clientGeneration).closed = false ∧ ∃ fd w,
        Exec (Step WriteLoop.step) (WriteLoop.start serialized)
          (results.map SendResult.loopResult) w ∧
        SendingAs request fd connection (wroteTo connection s.log) w t) := by
  have hrun := Exec.of_foldlM hcall
  by_cases hclosed : s.activeClientFd = none ∨ s.activeClientGeneration ≠ request.clientGeneration
  · have hstart : s.sendSerializedResponse request serialized = s := if_pos hclosed
    rw [hstart] at hrun
    refine .inl ⟨decide_eq_true hclosed, ?_⟩
    cases hrun with
    | nil => exact ⟨rfl, rfl⟩
    | cons head _ => simp [Step, MCPIPCTransport.send, hidle] at head
  · have hstart : s.sendSerializedResponse request serialized =
        s.sendRemaining request serialized := if_neg hclosed
    refine .inr ⟨decide_eq_false hclosed, ?_⟩
    rw [not_or, not_not] at hclosed
    obtain ⟨fd, hfd⟩ := Option.ne_none_iff_exists'.mp hclosed.1
    have hsending : SendingAs request fd connection (wroteTo connection s.log)
        (WriteLoop.start serialized) (s.sendRemaining request serialized) := by
      refine ⟨?_, ?_, ?_, hclosed.2, fun _ => hclient fd hfd⟩
      · simp [sendRemaining, mainGoto, WriteLoop.start]
      · simp [sendRemaining, mainGoto, WriteLoop.start]
      · simp [sendRemaining, mainGoto, WriteLoop.start, hfd]
    rw [hstart] at hrun
    obtain ⟨w, hloop, hw⟩ := hsending.run hrun
    exact ⟨fd, w, hloop, hw⟩

/-- Besides those that are interrupted, there is at most one call of `send` for each byte and one
that fails. -/
theorem sendAll_length {results : List SendResult} (hidle : s.mainThread = .idle)
    (hclient : ∀ fd, s.activeClientFd = some fd → s.connectionAt fd = some connection)
    (hcall : s.sendAll request serialized results = some t) :
    (results.map SendResult.loopResult).countP WriteLoop.Result.moves ≤ serialized.length + 1 := by
  rcases sendAll_run hidle hclient hcall with ⟨-, rfl, -⟩ | ⟨-, fd, w, hloop, -⟩
  · simp
  · exact WriteLoop.start_length hloop

/-- A call that has returned has written the response or has closed the client. -/
theorem sendAll_delivers {results : List SendResult} (hidle : s.mainThread = .idle)
    (hclient : ∀ fd, s.activeClientFd = some fd → s.connectionAt fd = some connection)
    (hcall : s.sendAll request serialized results = some t) (hreturned : t.mainThread = .idle) :
    Delivers (s.clientStream connection request.clientGeneration) serialized
      (t.clientStream connection request.clientGeneration) := by
  rw [Delivers]
  rcases sendAll_run hidle hclient hcall with ⟨hclosed, -, rfl⟩ | ⟨hopen, fd, w, hloop, hw⟩
  · rw [if_pos hclosed]
  · obtain ⟨hpart, -, hfull⟩ := WriteLoop.run_ended hloop (hw.ended hreturned)
    rw [if_neg (by simp [hopen])]
    cases hfailed : w.failed with
    | false =>
        refine .inl ⟨?_, ?_⟩
        · simp [clientStream, hw.activeClientFd, hw.generation, hfailed]
        · rw [← hfull hfailed]
          exact hw.written
    | true =>
        refine .inr ⟨?_, w.written, hpart, hw.written⟩
        simp [clientStream, hw.activeClientFd, hfailed]

/-- What happens to the client of a generation: a response whose call has returned, or something
that writes nothing to it and does not make it the active client again. -/
inductive ClientStep (connection : Nat) (generation : UInt64) (s : MCPIPCTransport) :
    Option (List UInt8 × List SendResult) → MCPIPCTransport → Prop
  | response (request : Request) (serialized : List UInt8) (results : List SendResult)
      (t : MCPIPCTransport) (sender : request.clientGeneration = generation)
      (idle : s.mainThread = .idle)
      (client : ∀ fd, s.activeClientFd = some fd → s.connectionAt fd = some connection)
      (call : s.sendAll request serialized results = some t) (returned : t.mainThread = .idle) :
      ClientStep connection generation s (some (serialized, results)) t
  | other (t : MCPIPCTransport) (written : wroteTo connection t.log = wroteTo connection s.log)
      (closed : (s.clientStream connection generation).closed = true →
        (t.clientStream connection generation).closed = true) :
      ClientStep connection generation s none t

theorem ClientStep.moves {generation : UInt64} {call : Option (List UInt8 × List SendResult)}
    (h : ClientStep connection generation s call t) :
    Moves (s.clientStream connection generation) (call.map Prod.fst)
      (t.clientStream connection generation) := by
  cases h with
  | response request serialized results t sender idle client call returned =>
      subst sender
      exact .text serialized _ (sendAll_delivers idle client call returned)
  | other t written closed => exact .other _ written closed

end MCPIPCTransport

end Posix

namespace Windows

def loopResult : Option Nat → WriteLoop.Result
  | some count => .wrote count
  | none => .failed

namespace MCPIPCTransport

/-- What one call of `WriteFile` writes. -/
def writtenBytes (s : MCPIPCTransport) (written : Option Nat) : List UInt8 :=
  match s.mainThread, written with
  | .sending remaining, some count => remaining.take count
  | _, _ => []

/-- `writeFile`, with the bytes that the client has been written. -/
def writeNext (s : MCPIPCTransport × List UInt8) (written : Option Nat) :
    Option (MCPIPCTransport × List UInt8) :=
  (s.1.writeFile written).map fun t => (t, s.2 ++ s.1.writtenBytes written)

/-- A call of `SendSerializedResponse` with the answers of its calls of `WriteFile`. -/
def sendAll (generation : UInt64) (serialized : List UInt8) (results : List (Option Nat))
    (s : MCPIPCTransport × List UInt8) : Option (MCPIPCTransport × List UInt8) :=
  results.foldlM writeNext (s.1.sendSerializedResponse generation serialized, s.2)

def clientStream (generation : UInt64) (s : MCPIPCTransport × List UInt8) : Stream UInt8 where
  written := s.2
  closed := decide (s.1.activeClientHandle = none ∨ s.1.activeClientGeneration ≠ generation)

/-- The transport in the loop, or behind it, that is at `w`. -/
structure SendingAs (generation : UInt64) (pipe : Nat) (before : List UInt8)
    (w : WriteLoop.State UInt8) (s : MCPIPCTransport × List UInt8) : Prop where
  written : s.2 = before ++ w.written
  mainThread : s.1.mainThread =
    if w.failed || w.remaining.isEmpty then .idle else .sending w.remaining
  activeClientHandle : s.1.activeClientHandle = if w.failed then none else some pipe
  generation : s.1.activeClientGeneration = generation

variable {generation : UInt64} {pipe : Nat} {before serialized : List UInt8}
  {w : WriteLoop.State UInt8} {s t : MCPIPCTransport × List UInt8}

/-- A call of `WriteFile` is a round of the loop. -/
theorem SendingAs.writeNext {written : Option Nat} (h : SendingAs generation pipe before w s)
    (hwrite : MCPIPCTransport.writeNext s written = some t) :
    ∃ w', WriteLoop.step w (loopResult written) = some w' ∧
      SendingAs generation pipe before w' t := by
  obtain ⟨hwritten, hmain, hpipe, hgeneration⟩ := h
  obtain ⟨next, hnext, rfl⟩ := Option.map_eq_some_iff.mp hwrite
  by_cases hended : (w.failed || w.remaining.isEmpty) = true
  · simp [writeFile, hmain, hended] at hnext
  · have hfailed : w.failed = false := by
      simp only [Bool.or_eq_true, not_or, Bool.not_eq_true] at hended
      exact hended.1
    simp only [hended, Bool.false_eq_true, if_false] at hmain
    simp only [hfailed, Bool.false_eq_true, if_false] at hpipe
    cases written with
    | some count =>
        simp only [writeFile, hmain] at hnext
        split at hnext
        · rename_i hcount
          obtain rfl := Option.some.inj hnext
          refine ⟨⟨w.written ++ w.remaining.take count, w.remaining.drop count, false⟩, ?_, ?_⟩
          · simp [WriteLoop.step, loopResult, hended, hcount]
          · refine ⟨?_, ?_, hpipe, hgeneration⟩
            · simp [writtenBytes, hmain, hwritten]
            · simp [sendRemaining]
        · cases hnext
    | none =>
        simp only [writeFile, hmain] at hnext
        obtain rfl := Option.some.inj hnext
        refine ⟨{ w with failed := true }, ?_, ?_⟩
        · simp [WriteLoop.step, loopResult, hended]
        · refine ⟨?_, ?_, ?_, ?_⟩
          · simp [writtenBytes, hwritten]
          · simp [closeActiveClient, closeHandle, hpipe]
          · simp [closeActiveClient, closeHandle, hpipe]
          · simp [closeActiveClient, closeHandle, hpipe, hgeneration]

theorem SendingAs.run {results : List (Option Nat)}
    (hrun : Exec (Step MCPIPCTransport.writeNext) s results t)
    (h : SendingAs generation pipe before w s) :
    ∃ w', Exec (Step WriteLoop.step) w (results.map loopResult) w' ∧
      SendingAs generation pipe before w' t := by
  induction hrun generalizing w with
  | nil s => exact ⟨w, .nil w, h⟩
  | cons head _ ih =>
      obtain ⟨next, hstep, hnext⟩ := h.writeNext head
      obtain ⟨last, hrest, hlast⟩ := ih hnext
      exact ⟨last, .cons hstep hrest, hlast⟩

theorem failed_mem_map {results : List (Option Nat)} :
    WriteLoop.Result.failed ∈ results.map loopResult ↔ none ∈ results := by
  rw [List.mem_map]
  constructor
  · rintro ⟨result, hmem, hresult⟩
    cases result with
    | none => exact hmem
    | some count => cases hresult
  · intro hmem
    exact ⟨none, hmem, rfl⟩

theorem SendingAs.ended (h : SendingAs generation pipe before w s)
    (hreturned : s.1.mainThread = .idle) : w.Ended := by
  by_contra hgo
  rw [WriteLoop.State.Ended, not_or] at hgo
  have hmain := h.mainThread
  simp [hreturned, hgo.1, hgo.2] at hmain

/-- What goes through the loop is the part of the response that fits into a `DWORD`. -/
theorem sendAll_run {results : List (Option Nat)} (hidle : s.1.mainThread = .idle)
    (hcall : sendAll generation serialized results s = some t) :
    ((clientStream generation s).closed = true ∧ results = [] ∧ t = s) ∨
      ((clientStream generation s).closed = false ∧ ∃ pipe w,
        Exec (Step WriteLoop.step) (WriteLoop.start (serialized.take (2 ^ 32 - 1)))
          (results.map loopResult) w ∧
        SendingAs generation pipe s.2 w t) := by
  have hrun := Exec.of_foldlM hcall
  by_cases hclosed : s.1.activeClientHandle = none ∨ s.1.activeClientGeneration ≠ generation
  · have hstart : s.1.sendSerializedResponse generation serialized = s.1 := if_pos hclosed
    rw [hstart] at hrun
    refine .inl ⟨decide_eq_true hclosed, ?_⟩
    cases hrun with
    | nil => exact ⟨rfl, rfl⟩
    | cons head _ => simp [Step, MCPIPCTransport.writeNext, writeFile, hidle] at head
  · have hstart : s.1.sendSerializedResponse generation serialized =
        s.1.sendRemaining (serialized.take (2 ^ 32 - 1)) := if_neg hclosed
    refine .inr ⟨decide_eq_false hclosed, ?_⟩
    rw [not_or, not_not] at hclosed
    obtain ⟨pipe, hpipe⟩ := Option.ne_none_iff_exists'.mp hclosed.1
    have hsending : SendingAs generation pipe s.2 (WriteLoop.start (serialized.take (2 ^ 32 - 1)))
        (s.1.sendRemaining (serialized.take (2 ^ 32 - 1)), s.2) := by
      refine ⟨?_, ?_, ?_, hclosed.2⟩
      · simp [WriteLoop.start]
      · simp only [sendRemaining, WriteLoop.start, Bool.false_or]
      · simp [sendRemaining, WriteLoop.start, hpipe]
    rw [hstart] at hrun
    obtain ⟨w, hloop, hw⟩ := hsending.run hrun
    exact ⟨pipe, w, hloop, hw⟩

/-- There is at most one call of `WriteFile` for each byte and one that fails. -/
theorem sendAll_length {results : List (Option Nat)} (hidle : s.1.mainThread = .idle)
    (hcall : sendAll generation serialized results s = some t) :
    results.length ≤ serialized.length + 1 := by
  rcases sendAll_run hidle hcall with ⟨-, rfl, -⟩ | ⟨-, pipe, w, hloop, -⟩
  · simp
  · have hlength := WriteLoop.start_length hloop
    have hmoves : (results.map loopResult).countP WriteLoop.Result.moves = results.length := by
      rw [List.countP_map, List.countP_eq_length]
      intro result _
      cases result <;> rfl
    have hcut : (serialized.take (2 ^ 32 - 1)).length ≤ serialized.length :=
      (List.take_sublist _ _).length_le
    omega

/-- A call that has returned has written the response or closed the client exactly when the
response fits into a `DWORD` or a write has failed, unless there is no such client. -/
theorem sendAll_delivers_iff {results : List (Option Nat)} (hidle : s.1.mainThread = .idle)
    (hcall : sendAll generation serialized results s = some t)
    (hreturned : t.1.mainThread = .idle) :
    Delivers (clientStream generation s) serialized (clientStream generation t) ↔
      (clientStream generation s).closed = true ∨ serialized.length ≤ 2 ^ 32 - 1 ∨
        none ∈ results := by
  rw [Delivers]
  rcases sendAll_run hidle hcall with ⟨hclosed, -, rfl⟩ | ⟨hopen, pipe, w, hloop, hw⟩
  · simp [hclosed]
  · obtain ⟨hpart, hfailed, hfull⟩ := WriteLoop.run_ended hloop (hw.ended hreturned)
    rw [failed_mem_map] at hfailed
    rw [if_neg (by simp [hopen]), hopen, ← hfailed]
    cases hdone : w.failed with
    | false =>
        have hstays : (clientStream generation t).closed = false := by
          simp [clientStream, hw.activeClientHandle, hw.generation, hdone]
        have hwritten : (clientStream generation t).written =
            (clientStream generation s).written ++ serialized.take (2 ^ 32 - 1) := by
          rw [← hfull hdone]
          exact hw.written
        rw [hstays, hwritten]
        simp only [true_and, Bool.false_eq_true, false_and, or_false, false_or,
          List.append_cancel_left_eq, List.take_eq_self_iff]
    | true =>
        have hcloses : (clientStream generation t).closed = true := by
          simp [clientStream, hw.activeClientHandle, hdone]
        simp only [or_true, iff_true]
        exact .inr ⟨hcloses, w.written, hpart.trans (List.take_prefix _ _), hw.written⟩

inductive ClientStep (generation : UInt64) (s : MCPIPCTransport × List UInt8) :
    Option (List UInt8 × List (Option Nat)) → MCPIPCTransport × List UInt8 → Prop
  | response (serialized : List UInt8) (results : List (Option Nat))
      (t : MCPIPCTransport × List UInt8) (idle : s.1.mainThread = .idle)
      (call : sendAll generation serialized results s = some t)
      (returned : t.1.mainThread = .idle) :
      ClientStep generation s (some (serialized, results)) t
  | other (t : MCPIPCTransport × List UInt8) (written : t.2 = s.2)
      (closed : (clientStream generation s).closed = true →
        (clientStream generation t).closed = true) : ClientStep generation s none t

/-- The response fits into a `DWORD`, or one of its writes fails. -/
def Fits (call : List UInt8 × List (Option Nat)) : Prop :=
  call.1.length ≤ 2 ^ 32 - 1 ∨ none ∈ call.2

theorem ClientStep.moves {call : Option (List UInt8 × List (Option Nat))}
    (h : ClientStep generation s call t) (hfits : ∀ c ∈ call, Fits c) :
    Moves (clientStream generation s) (call.map Prod.fst) (clientStream generation t) := by
  cases h with
  | response serialized results t idle call returned =>
      have hfits := hfits (serialized, results) rfl
      exact .text serialized _ ((sendAll_delivers_iff idle call returned).mpr (.inr hfits))
  | other t written closed => exact .other _ written closed

/-- One `WriteFile` takes all that is left of a response longer than a `DWORD` says. -/
theorem sendAll_cut {s : MCPIPCTransport} (hmain : s.activeClientHandle ≠ none)
    (hgeneration : s.activeClientGeneration = generation)
    (hlength : 2 ^ 32 - 1 < serialized.length) :
    sendAll generation serialized [some (2 ^ 32 - 1)] (s, []) =
      some ({ s with mainThread := .idle }, serialized.take (2 ^ 32 - 1)) := by
  have hstart : s.sendSerializedResponse generation serialized =
      s.sendRemaining (serialized.take (2 ^ 32 - 1)) := if_neg (by simp [hmain, hgeneration])
  have hpart : (serialized.take (2 ^ 32 - 1)).length = 2 ^ 32 - 1 := by
    rw [List.length_take]
    omega
  rw [sendAll, hstart]
  generalize serialized.take (2 ^ 32 - 1) = part at hpart ⊢
  have hne : part.isEmpty = false := by
    rw [List.isEmpty_eq_false_iff, ← List.length_pos_iff]
    omega
  simp [writeNext, writeFile, writtenBytes, sendRemaining, hne, hpart]

end MCPIPCTransport

end Windows

end Browserd
