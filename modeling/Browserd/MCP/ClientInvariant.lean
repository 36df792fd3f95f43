import Browserd.MCP.ClientHistory
import Browserd.MCP.IPCSteps

/-!
# The isolation invariant of IPC clients

What ties descriptors, generation, buffer and history of the transport together, and what keeps
it: moving on, closing a descriptor, recording an event.
-/

namespace Browserd.Posix

open Transition

/-- What the IPC thread knows of a descriptor it took over a critical section. -/
def PointOK (s : MCPIPCTransport) : RunLoopPoint → Prop
  | .activate fd _ =>
      s.activeClientFd ≠ some fd ∧
        ∃ c, s.fds fd = some (.connection c) ∧ c ∉ activations s.log
  | .closeExtraClient fd _ =>
      s.activeClientFd ≠ some fd ∧ ∃ c, s.fds fd = some (.connection c)
  | .recv fd generation _ =>
      generation = s.activeClientGeneration ∧
        (s.activeClientFd = some fd ∨ s.activeClientFd = none ∧ s.fds fd = none)
  | .dropClient fd => s.activeClientFd = some fd ∨ s.activeClientFd = none
  | .dispatch generation => generation = s.activeClientGeneration
  | _ => True

/-- Closing a descriptor leaves the facts at the point alone if it is the active client's, which
is then forgotten, or none that the point knows as a connection. -/
theorem PointOK.closed {s : MCPIPCTransport} {point : RunLoopPoint} {fd : Nat}
    {activeClientFd : Option Nat} (h : PointOK s point)
    (hactive : activeClientFd = s.activeClientFd ∨
      activeClientFd = none ∧ s.activeClientFd = some fd)
    (hother : ∀ fd' c, s.fds fd' = some (.connection c) → s.activeClientFd ≠ some fd' →
      fd' ≠ fd) :
    PointOK { s with fds := Function.update s.fds fd none, activeClientFd } point := by
  have hforgotten : ∀ fd', s.activeClientFd ≠ some fd' → activeClientFd ≠ some fd' := by
    intro fd' hne
    rcases hactive with hsame | ⟨hnone, -⟩
    · rwa [hsame]
    · simp [hnone]
  cases point with
  | activate fd' ready =>
      obtain ⟨hne, c, hconnection, hc⟩ := h
      apply And.intro (hforgotten fd' hne)
      exists c
      simp only [Function.update_of_ne (hother fd' c hconnection hne)]
      exact ⟨hconnection, hc⟩
  | closeExtraClient fd' ready =>
      obtain ⟨hne, c, hconnection⟩ := h
      apply And.intro (hforgotten fd' hne)
      exists c
      simp only [Function.update_of_ne (hother fd' c hconnection hne)]
      exact hconnection
  | recv fd' generation ready =>
      obtain ⟨hgeneration, hfd'⟩ := h
      apply And.intro hgeneration
      rcases hactive with hsame | ⟨hnone, hclosed⟩
      · rw [hsame]
        rcases hfd' with hopen | ⟨hnone, hfree⟩
        · exact Or.inl hopen
        · apply Or.inr (And.intro hnone _)
          by_cases heq : fd' = fd
          · simp [heq]
          · simpa [Function.update_of_ne heq] using hfree
      · have heq : fd = fd' := by simpa [hclosed] using hfd'
        simp [hnone, heq]
  | dropClient fd' =>
      rcases hactive with hsame | ⟨hnone, -⟩
      · rw [hsame]
        exact h
      · exact Or.inr hnone
  | dispatch generation => exact h
  | _ => trivial

/-- The bytes of the current client may still be dispatched, or more of them read. -/
def Reading (s : MCPIPCTransport) : Prop :=
  s.activeClientFd ≠ none ∨ ∃ generation, s.ipcThread = .dispatch generation

/-- Once a client is closed and its last bytes are dispatched, `complete` asks nothing of it. -/
structure Isolation (json : JSONCodec) (s : MCPIPCTransport) : Prop where
  listener {fd : Nat} : s.listenerFd = some fd → s.fds fd = some .listener
  client {fd : Nat} : s.activeClientFd = some fd →
    ∃ c, s.fds fd = some (.connection c) ∧ currentClient s.log = some c
  numbered {fd c : Nat} : s.fds fd = some (.connection c) → c < s.acceptedCount
  activated {c : Nat} : c ∈ activations s.log → c < s.acceptedCount
  point : PointOK s s.ipcThread
  generation : s.activeClientGeneration = generationAfter s.log
  unheard {c : Nat} : c ∉ activations s.log → receivedFrom c s.log = []
  empty : currentClient s.log = none → s.buffer = []
  suffix {c : Nat} : currentClient s.log = some c → s.buffer <:+ receivedFrom c s.log
  lines {c : Nat} : currentClient s.log = some c →
    dispatchedLines s.log ++ (takeLines s.buffer).1 <+: (takeLines (receivedFrom c s.log)).1
  complete {c : Nat} : currentClient s.log = some c → Reading s →
    takeLines (receivedFrom c s.log) =
      (dispatchedLines s.log ++ (takeLines s.buffer).1, (takeLines s.buffer).2)
  posted {request : Request} : request ∈ s.posted → Requested json s.log request
  sending {request : Request} {remaining : List UInt8} :
    s.mainThread = .sending request remaining →
      Requested json s.log request ∧ s.activeClientGeneration = request.clientGeneration
  history : Each (IPCEvent.Isolated json) s.log

namespace Isolation

open MCPIPCTransport

variable {json : JSONCodec} {s : MCPIPCTransport}

theorem start (json : JSONCodec) (listenerFd : Nat) (path : String) :
    Isolation json (MCPIPCTransport.start listenerFd path) where
  listener hfd := by
    obtain rfl := Option.some.inj hfd
    simp [MCPIPCTransport.start]
  client hfd := by simp [MCPIPCTransport.start] at hfd
  numbered {fd c} hfd := by
    by_cases h : fd = listenerFd
    · subst h
      simp [MCPIPCTransport.start] at hfd
    · simp [MCPIPCTransport.start, h] at hfd
  activated hc := by simp [MCPIPCTransport.start] at hc
  point := trivial
  generation := rfl
  unheard _ := rfl
  empty _ := rfl
  suffix hc := by simp [MCPIPCTransport.start, currentClient] at hc
  lines hc := by simp [MCPIPCTransport.start, currentClient] at hc
  complete hc := by simp [MCPIPCTransport.start, currentClient] at hc
  posted hr := by simp [MCPIPCTransport.start] at hr
  sending hm := by simp [MCPIPCTransport.start] at hm
  history := Each.nil

/-- The IPC thread moves on without touching anything. -/
theorem goto (h : Isolation json s) (point : RunLoopPoint) (hpoint : PointOK s point)
    (hdispatch : ∀ generation, point ≠ .dispatch generation) :
    Isolation json (s.goto point) :=
  { h with
    point := by cases point <;> exact hpoint
    complete := by
      intro c hc hreading
      apply h.complete hc
      rcases hreading with hopen | ⟨generation, heq⟩
      · exact Or.inl hopen
      · exact absurd heq (hdispatch generation) }

theorem mainGoto (h : Isolation json s) (point : MainPoint)
    (hpoint : ∀ request remaining, point ≠ .sending request remaining) :
    Isolation json (s.mainGoto point) :=
  { h with sending := fun heq => absurd heq (hpoint _ _) }

/-- An event that neither starts a client nor reads or dispatches its bytes is recorded. -/
theorem neutral {e : IPCEvent} (h : Isolation json s) (he : e.isNeutral = true)
    (hisolated : e.Isolated json s.log) : Isolation json { s with log := s.log ++ [e] } where
  listener := h.listener
  client hfd := by
    rw [currentClient_neutral he]
    exact h.client hfd
  numbered := h.numbered
  activated hc := by
    rw [activations_neutral he] at hc
    exact h.activated hc
  point := by
    have hpoint := h.point
    unfold PointOK at hpoint ⊢
    simp only [activations_neutral he]
    exact hpoint
  generation := by
    rw [generationAfter, activations_neutral he]
    exact h.generation
  unheard hc := by
    rw [activations_neutral he] at hc
    rw [receivedFrom_neutral he]
    exact h.unheard hc
  empty hc := by
    rw [currentClient_neutral he] at hc
    exact h.empty hc
  suffix hc := by
    rw [currentClient_neutral he] at hc
    rw [receivedFrom_neutral he]
    exact h.suffix hc
  lines hc := by
    rw [currentClient_neutral he] at hc
    rw [receivedFrom_neutral he, dispatchedLines_neutral he]
    exact h.lines hc
  complete hc := by
    rw [currentClient_neutral he] at hc
    rw [receivedFrom_neutral he, dispatchedLines_neutral he]
    exact h.complete hc
  posted hr := (h.posted hr).snoc e
  sending hm := ⟨(h.sending hm).1.snoc e, (h.sending hm).2⟩
  history := h.history.snoc hisolated

/-- A descriptor is closed and, if it was the listener's or the active client's, forgotten. -/
theorem closing {fd : Nat} {listenerFd activeClientFd : Option Nat} (h : Isolation json s)
    (hlistener : ∀ fd', listenerFd = some fd' → s.listenerFd = some fd' ∧ fd' ≠ fd)
    (hclient : ∀ fd', activeClientFd = some fd' → s.activeClientFd = some fd' ∧ fd' ≠ fd)
    (hpoint : PointOK { s with fds := Function.update s.fds fd none, activeClientFd }
      s.ipcThread) :
    Isolation json { s.closeDescriptor fd with listenerFd, activeClientFd } := by
  have hclosed : Isolation json
      { s with fds := Function.update s.fds fd none, listenerFd, activeClientFd } :=
    { h with
      listener := by
        intro fd' hfd'
        obtain ⟨hfd', hne⟩ := hlistener fd' hfd'
        simp only [Function.update_of_ne hne]
        exact h.listener hfd'
      client := by
        intro fd' hfd'
        obtain ⟨hfd', hne⟩ := hclient fd' hfd'
        simp only [Function.update_of_ne hne]
        exact h.client hfd'
      numbered := by
        intro fd' c hfd'
        by_cases hne : fd' = fd
        · subst hne
          simp at hfd'
        · simp only [Function.update_of_ne hne] at hfd'
          exact h.numbered hfd'
      point := hpoint
      complete := by
        intro c hc hreading
        apply h.complete hc
        rcases hreading with hopen | hdispatch
        · obtain ⟨fd', hfd'⟩ := Option.ne_none_iff_exists'.mp hopen
          exact Or.inl (by simp [(hclient fd' hfd').1])
        · exact Or.inr hdispatch }
  unfold MCPIPCTransport.closeDescriptor
  cases s.fds fd with
  | none =>
      simp only [Option.map_none, Option.toList_none, List.append_nil]
      exact hclosed
  | some socket => exact hclosed.neutral rfl trivial

theorem closeActiveClient (h : Isolation json s) : Isolation json s.closeActiveClient := by
  unfold MCPIPCTransport.closeActiveClient
  cases hactive : s.activeClientFd with
  | none => exact h
  | some fd =>
      obtain ⟨c, hfd, -⟩ := h.client hactive
      apply @closing json s fd s.listenerFd none h
      · intro fd' hfd'
        apply And.intro hfd'
        intro heq
        subst heq
        simp [h.listener hfd'] at hfd
      · simp
      · apply h.point.closed (Or.inr ⟨rfl, hactive⟩)
        intro fd' c' _ hother heq
        exact hother (heq ▸ hactive)

theorem closeListener (h : Isolation json s) : Isolation json s.closeListener := by
  unfold MCPIPCTransport.closeListener
  cases hlistener : s.listenerFd with
  | none => exact h
  | some fd =>
      have hfd := h.listener hlistener
      have hother : ∀ fd' c, s.fds fd' = some (.connection c) → fd' ≠ fd := by
        intro fd' c hconnection heq
        simp [← heq, hconnection] at hfd
      apply @closing json s fd none s.activeClientFd h
      · simp
      · intro fd' hfd'
        obtain ⟨c, hconnection, -⟩ := h.client hfd'
        exact ⟨hfd', hother fd' c hconnection⟩
      · apply h.point.closed (Or.inl rfl)
        intro fd' c hconnection _
        exact hother fd' c hconnection

theorem unlinkBoundPath (h : Isolation json s) : Isolation json s.unlinkBoundPath := by
  unfold MCPIPCTransport.unlinkBoundPath
  split
  · exact h
  · have hunlinked : Isolation json { s with boundSocketPath := "" } := { h with }
    exact hunlinked.neutral rfl trivial

end Isolation

end Browserd.Posix
