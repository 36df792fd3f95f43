import Browserd.MCP.DescriptorLife

/-!
# The active client over a step

How a client comes to be the active one, how the main thread closes it, and what of it and of the
history a step leaves alone.
-/

namespace Browserd.Posix

/-- It is the main thread's turn. -/
def IPCInput.ofMainThread : IPCInput → Bool
  | .sendResponse .. => true
  | .send _ => true
  | .destroy => true
  | .destructor => true
  | _ => false

namespace MCPIPCTransport

/-- The connection from `accept` becomes the active client. -/
def activatesClient (s : MCPIPCTransport) : IPCInput → Bool
  | .runLoop =>
      match s.ipcThread with
      | .activate _ _ => s.activeClientFd.isNone
      | _ => false
  | _ => false

/-- The main thread closes the active client: a write has failed, or the destructor runs. -/
def closesClient (s : MCPIPCTransport) : IPCInput → Bool
  | .send .failed => true
  | .destructor =>
      match s.mainThread with
      | .closingClient => true
      | _ => false
  | _ => false

section History

variable {json : JSONCodec} {s t : MCPIPCTransport}

theorem closeActiveClient_log (s : MCPIPCTransport) : s.log <+: s.closeActiveClient.log := by
  unfold closeActiveClient
  split
  · exact List.prefix_rfl
  · exact List.prefix_append _ _

theorem closeListener_log (s : MCPIPCTransport) : s.log <+: s.closeListener.log := by
  unfold closeListener
  split
  · exact List.prefix_rfl
  · exact List.prefix_append _ _

theorem unlinkBoundPath_log (s : MCPIPCTransport) : s.log <+: s.unlinkBoundPath.log := by
  unfold unlinkBoundPath
  split
  · exact List.prefix_rfl
  · exact List.prefix_append _ _

/-- The history only grows. -/
theorem step_log {input : IPCInput} (h : s.step json input = some t) : s.log <+: t.log := by
  cases IPCStep.of_step h with
  | moves => exact List.prefix_rfl
  | activate fd ready point free =>
      unfold activate
      split
      · exact List.prefix_rfl
      · exact List.prefix_append _ _
  | closeExtraClient fd ready point => exact List.prefix_append _ _
  | dropClient fd point free =>
      simp only [dropClient]
      split
      · exact closeActiveClient_log s
      · exact List.prefix_rfl
  | dispatchNext generation point =>
      unfold dispatchNext
      split
      · exact List.prefix_rfl
      · exact List.prefix_append _ _
  | requestStop point free =>
      exact ((closeActiveClient_log s).trans (closeListener_log _)).trans (unlinkBoundPath_log _)
  | sendFails => exact closeActiveClient_log (s.mainGoto .idle)
  | closesClient point => exact closeActiveClient_log (s.mainGoto .closingListener)
  | closesListener point => exact closeListener_log (s.mainGoto .unlinking)
  | unlinks point => exact unlinkBoundPath_log (s.mainGoto .stopped)
  | takes | responds | retries | destroy => exact List.prefix_rfl
  | accepts | receives | writes => exact List.prefix_append _ _

/-- A client that has been activated stays in the history. -/
theorem activations_step {input : IPCInput} (h : s.step json input = some t) :
    activations s.log ⊆ activations t.log := by
  obtain ⟨events, hlog⟩ := step_log h
  rw [← hlog, activations, activations, List.filterMap_append]
  exact List.subset_append_left _ _

/-- No closing and no unlinking is an activation. -/
theorem closeDescriptor_activations (fd : Nat) :
    activations (s.closeDescriptor fd).log = activations s.log := by
  simp only [closeDescriptor]
  cases s.fds fd with
  | none => simp
  | some socket => exact activations_neutral rfl

theorem closeActiveClient_activations :
    activations s.closeActiveClient.log = activations s.log := by
  unfold closeActiveClient
  split
  · rfl
  · exact closeDescriptor_activations _

theorem closeListener_activations : activations s.closeListener.log = activations s.log := by
  unfold closeListener
  split
  · rfl
  · exact closeDescriptor_activations _

theorem unlinkBoundPath_activations : activations s.unlinkBoundPath.log = activations s.log := by
  unfold unlinkBoundPath
  split
  · rfl
  · exact activations_neutral rfl

theorem requestStopLocked_activations :
    activations s.requestStopLocked.log = activations s.log :=
  unlinkBoundPath_activations.trans (closeListener_activations.trans closeActiveClient_activations)

end History

section Main

variable {json : JSONCodec} {s t : MCPIPCTransport}

/-- What the main thread leaves alone unless it closes the client. -/
structure Untouched (s t : MCPIPCTransport) : Prop where
  ipcThread : t.ipcThread = s.ipcThread
  activeClientFd : t.activeClientFd = s.activeClientFd
  connectionAt (fd : Nat) : t.connectionAt fd = s.connectionAt fd

theorem closeListener_untouched (hisolation : Isolation json s) : Untouched s s.closeListener := by
  unfold closeListener
  split
  · exact ⟨rfl, rfl, fun _ => rfl⟩
  · rename_i fd hlistener
    refine ⟨rfl, rfl, ?_⟩
    intro fd'
    by_cases hfd : fd' = fd
    · subst hfd
      simp [closeDescriptor, connectionAt, hisolation.listener hlistener]
    · simp [closeDescriptor, connectionAt, Function.update_of_ne hfd]

theorem unlinkBoundPath_untouched (s : MCPIPCTransport) : Untouched s s.unlinkBoundPath := by
  unfold unlinkBoundPath
  split
  · exact ⟨rfl, rfl, fun _ => rfl⟩
  · exact ⟨rfl, rfl, fun _ => rfl⟩

theorem mainGoto_untouched (point : MainPoint) (s : MCPIPCTransport) :
    Untouched s (s.mainGoto point) :=
  ⟨rfl, rfl, fun _ => rfl⟩

theorem Untouched.trans {u : MCPIPCTransport} (h : Untouched s t) (h' : Untouched t u) :
    Untouched s u where
  ipcThread := h'.ipcThread.trans h.ipcThread
  activeClientFd := h'.activeClientFd.trans h.activeClientFd
  connectionAt fd := (h'.connectionAt fd).trans (h.connectionAt fd)

theorem untouched_of_main {input : IPCInput} (hisolation : Isolation json s)
    (h : s.step json input = some t) (hmain : input.ofMainThread = true)
    (hcloses : s.closesClient input = false) : Untouched s t := by
  cases IPCStep.of_step h with
  | moves input point moves => cases moves <;> cases hmain
  | takes => exact ⟨rfl, rfl, fun _ => rfl⟩
  | responds => exact ⟨rfl, rfl, fun _ => rfl⟩
  | writes => exact ⟨rfl, rfl, fun _ => rfl⟩
  | retries => exact ⟨rfl, rfl, fun _ => rfl⟩
  | sendFails => cases hcloses
  | destroy idle => exact ⟨rfl, rfl, fun _ => rfl⟩
  | closesClient point => simp [closesClient, point] at hcloses
  | closesListener point =>
      have hmoved : Isolation json (s.mainGoto .unlinking) :=
        hisolation.mainGoto _ (fun _ _ => by simp)
      exact (mainGoto_untouched _ s).trans (closeListener_untouched hmoved)
  | unlinks point => exact (mainGoto_untouched _ s).trans (unlinkBoundPath_untouched _)
  | _ => cases hmain

theorem closesClient_step {input : IPCInput} (h : s.step json input = some t)
    (hcloses : s.closesClient input = true) :
    ∃ point, t = (s.mainGoto point).closeActiveClient := by
  cases IPCStep.of_step h with
  | sendFails => exact ⟨_, rfl⟩
  | closesClient point => exact ⟨_, rfl⟩
  | closesListener point => simp [closesClient, point] at hcloses
  | unlinks point => simp [closesClient, point] at hcloses
  | moves input point moves => cases moves <;> cases hcloses
  | _ => cases hcloses

/-- What is left of the client and of the connections when the main thread has closed it. -/
structure Closed (s t : MCPIPCTransport) : Prop where
  ipcThread : t.ipcThread = s.ipcThread
  activeClientFd : t.activeClientFd = none
  connectionAt {fd : Nat} :
    s.activeClientFd = some fd ∨ s.connectionAt fd = none → t.connectionAt fd = none

theorem closed_of_closesClient {input : IPCInput} (h : s.step json input = some t)
    (hcloses : s.closesClient input = true) : Closed s t := by
  obtain ⟨point, rfl⟩ := closesClient_step h hcloses
  cases hactive : s.activeClientFd with
  | none =>
      have hsame : (s.mainGoto point).closeActiveClient = s.mainGoto point := by
        simp [closeActiveClient, mainGoto, hactive]
      rw [hsame]
      refine ⟨rfl, hactive, ?_⟩
      intro fd hfd
      exact hfd.resolve_left (by simp [hactive])
  | some fd =>
      have hclosed : (s.mainGoto point).closeActiveClient =
          { (s.mainGoto point).closeDescriptor fd with activeClientFd := none } := by
        simp [closeActiveClient, mainGoto, hactive]
      rw [hclosed]
      refine ⟨rfl, rfl, ?_⟩
      intro fd' hfd'
      by_cases hsame : fd' = fd
      · subst hsame
        simp [closeDescriptor, connectionAt]
      · have hnone : s.connectionAt fd' = none := hfd'.resolve_left (by
          simpa [hactive] using fun heq => hsame heq.symm)
        simpa [closeDescriptor, connectionAt, mainGoto, Function.update_of_ne hsame] using hnone

end Main

end MCPIPCTransport

end Browserd.Posix
