import Browserd.Core.DestroyedTab
import Browserd.Core.NavigationCompleteness
import Browserd.MCP.ToolSteps

/-!
# Calls that are never answered

While the tab of a pending reload lives, the outstanding call can be answered by some event. Once
that tab is destroyed it cannot, and every later call waits behind it.
-/

namespace Browserd

open Transition

namespace Waiter

variable {w w' : Waiter}

/-- Only the destruction of its tab takes away the event that a reload waits for. -/
theorem Completable.deliver {chromium : Chromium} {event : WaiterEvent} (h : w.Completable)
    (hevent : ∀ r, w = .reload r → event ≠ .webContentsDestroyed)
    (hdeliver : w.deliver chromium event = (w', none)) : w'.Completable := by
  have hunanswered := h.unanswered.deliver hdeliver
  cases w with
  | navigation w =>
      simp only [Waiter.deliver, Prod.mk.injEq] at hdeliver
      obtain ⟨rfl, -⟩ := hdeliver
      exact hunanswered
  | reload w =>
      obtain ⟨hcallback, hobserving⟩ := h
      simp only [Waiter.deliver, Prod.mk.injEq] at hdeliver
      obtain ⟨rfl, hstatus⟩ := hdeliver
      cases event with
      | webContentsDestroyed => exact absurd rfl (hevent w rfl)
      | didStopLoading page =>
          simp [ReloadWaiter.deliver, hobserving, ReloadWaiter.didStopLoading, hcallback] at hstatus
      | _ => exact ⟨hcallback, hobserving⟩

/-- The timer completes a navigation, the end of loading completes a reload. -/
theorem Completable.completes (chromium : Chromium) (page : WebContents) (h : w.Completable) :
    ∃ event status, (w.deliver chromium event).2 = some status := by
  cases w with
  | navigation w =>
      have houtcome := NavigationWaiter.deliver_live chromium h .timeout
      refine ⟨.timeout, ?_⟩
      simp only [Waiter.deliver]
      generalize w.deliver chromium .timeout = result at houtcome
      cases houtcome with
      | failed _ status => exact ⟨status, rfl⟩
      | settled => exact ⟨.ok, rfl⟩
      | waits _ fails => exact absurd trivial fails
  | reload w =>
      obtain ⟨hcallback, hobserving⟩ := h
      refine ⟨.didStopLoading page, .ok, ?_⟩
      simp [Waiter.deliver, ReloadWaiter.deliver, hobserving, ReloadWaiter.didStopLoading,
        hcallback]

end Waiter

namespace ToolServer

variable {ρ : Type} [BrowserRuntime ρ]

/-- Some input answers the outstanding call. -/
def CanComplete (chromium : Chromium) (s : ToolServer ρ) : Prop :=
  ∃ cb input t, s.outstanding = [cb] ∧ step chromium s input = some t ∧
    cb.responseCallback ∉ repliedCalls s.log ∧ cb.responseCallback ∈ repliedCalls t.log

/-- The input tells the waiter of a pending reload that its tab is destroyed. -/
def DestroysReload (s : ToolServer ρ) (input : ToolInput ρ) : Prop :=
  ∃ callback op w, input = .waiterEvent callback .webContentsDestroyed ∧
    s.browser.findOperation callback = some op ∧ op.waiter = .reload w

variable {chromium : Chromium} {s t : ToolServer ρ}

/-- The one pending operation is a reload whose waiter observes no tab. -/
def Orphaned (s : ToolServer ρ) : Prop :=
  ∃ op w, s.browser.operations = [op] ∧ op.waiter = .reload w ∧ w.observing = false

private theorem deliver_completes {op : PendingOperation} {event : WaiterEvent}
    {status : BrowserStatus} (h : (op.waiter.deliver chromium event).2 = some status) :
    s.deliver chromium op event = s.complete op event status := by
  rw [deliver]
  cases hdeliver : op.waiter.deliver chromium event with
  | mk w result =>
      rw [hdeliver] at h
      simp only at h
      rw [h]

theorem Invariant.canComplete (h : Invariant chromium Waiter.Completable s)
    (hprogress : s.toolCallInProgress = true) : CanComplete chromium s := by
  have hsome : s.outstanding ≠ [] := h.queue.progress.mp hprogress
  obtain ⟨cb, rest, hcons⟩ := List.exists_cons_of_ne_nil hsome
  have hcb : cb ∈ s.browser.heldCallbacks := by simp [h.held, hcons]
  have houtstanding := h.outstanding_eq hcb
  have hholds : cb ∈ s.outstanding := by simp [houtstanding]
  have hunreplied := h.queue.unreplied hholds
  rcases List.mem_append.mp hcb with hop | hpage
  · obtain ⟨op, hmem, rfl⟩ := List.mem_map.mp hop
    obtain ⟨event, status, hdeliver⟩ := (h.waiters op hmem).completes chromium
      ⟨op.tab, "", .aboutBlank, false, false, false⟩
    obtain ⟨t, hcomplete, -, hreplied⟩ := h.complete (fun _ hw => hw) hmem event status
    refine ⟨op.callback, .waiterEvent op.callback.responseCallback event, t, houtstanding, ?_,
      hunreplied, hreplied⟩
    obtain ⟨hops, -, -⟩ := Browser.held_operation (h.held.trans houtstanding) hmem
    simp [step, Browser.findOperation, hops, deliver_completes hdeliver, hcomplete]
  · obtain ⟨t, hstep, -, hreplied⟩ := h.pageToolResult (fun _ hw => hw) hpage [] false
    exact ⟨cb, _, t, houtstanding, hstep, hunreplied, hreplied⟩

/-- A step in which no tab of a pending reload is destroyed keeps the waiters completable. -/
theorem step_completable (h : Invariant chromium Waiter.Completable s) {input : ToolInput ρ}
    (hstep : step chromium s input = some t) (hinput : ¬ DestroysReload s input) :
    Invariant chromium Waiter.Completable t := by
  apply step_invariant (fun _ hw => hw) h hstep
  intro callback event op w heq hfind hdeliver hop
  apply hop.deliver _ hdeliver
  intro r hr hevent
  exact hinput ⟨callback, op, r, hevent ▸ heq, hfind, hr⟩

/-- The outstanding reload, its callback and the replies to accepted calls stay as they are. -/
theorem step_orphaned (h : Invariant chromium Waiter.Unanswered s) (horphan : s.Orphaned)
    {input : ToolInput ρ} (hstep : step chromium s input = some t) :
    t.Orphaned ∧ t.outstanding = s.outstanding ∧
      acceptedReplies t.log = acceptedReplies s.log := by
  obtain ⟨op, w, hops, hwaiter, hobserving⟩ := horphan
  have hop : op ∈ s.browser.operations := by simp [hops]
  have houtstanding := h.outstanding_operation hop
  obtain ⟨-, hother, -⟩ := Browser.held_operation (h.held.trans houtstanding) hop
  have hprogress : s.toolCallInProgress = true := h.queue.progress.mpr (by simp [houtstanding])
  have ht := step_unanswered h hstep
  cases input with
  | message message =>
      simp only [step, MCPServer.step, Option.some.injEq] at hstep
      subst hstep
      -- A call in progress keeps the queue from being executed.
      rcases MCPServer.onMessage_cases message (receivedMessages s.log).length
        (s.record (.received message)) with ⟨response, -, heq⟩ | ⟨call, -, -, -, -, heq⟩
      · rw [heq] at ht ⊢
        refine ⟨⟨op, w, hops, hwaiter, hobserving⟩, rfl, ?_⟩
        apply h.queue.acceptedReplies_eq ht.queue []
        · simp [MCPServer.answeredAtOnce, MCPServer.record, acceptedCalls]
        · rfl
        · simp [MCPServer.queuedCalls, MCPServer.answeredAtOnce, MCPServer.record]
      · have hbusy : ¬ (s.record (.received message)).toolCallInProgress = false := by
          simp [MCPServer.record, hprogress]
        rw [heq, if_neg hbusy] at ht ⊢
        refine ⟨⟨op, w, hops, hwaiter, hobserving⟩, rfl, ?_⟩
        apply h.queue.acceptedReplies_eq ht.queue [call.responseCallback]
        · simp [MCPServer.enqueued, MCPServer.record, acceptedCalls]
        · rfl
        · simp [MCPServer.queuedCalls, MCPServer.enqueued, MCPServer.record]
  | setController present =>
      obtain rfl := (Option.some.inj hstep).symm
      exact ⟨⟨op, w, hops, hwaiter, hobserving⟩, rfl, rfl⟩
  | environment runtime builder answersAtOnce =>
      obtain rfl := (Option.some.inj hstep).symm
      exact ⟨⟨op, w, hops, hwaiter, hobserving⟩, rfl, rfl⟩
  | waiterEvent callback event =>
      obtain ⟨op', hfind, hop'⟩ := Option.bind_eq_some_iff.mp hstep
      have hmem := List.mem_of_find?_eq_some hfind
      rw [hops, List.mem_singleton] at hmem
      subst hmem
      obtain ⟨w', hobserving', hdeliver⟩ := ReloadWaiter.deliver_deaf hobserving event
      simp only [deliver, hwaiter, Waiter.deliver, hdeliver, Option.some.injEq] at hop'
      subst hop'
      refine ⟨⟨{ op' with waiter := .reload w' }, w', ?_, rfl, hobserving'⟩, rfl, rfl⟩
      simp [withBrowser, Browser.setWaiter, hops]
  | pageToolResult callback content isError => simp [step, hother] at hstep

theorem orphaned_not_canComplete (h : Invariant chromium Waiter.Unanswered s)
    (horphan : s.Orphaned) : ¬ CanComplete chromium s := by
  intro hcan
  obtain ⟨cb, input, t, houtstanding, hstep, -, hreplied⟩ := hcan
  obtain ⟨-, hsame, -⟩ := step_orphaned h horphan hstep
  have ht := step_unanswered h hstep
  have hcb : cb ∈ t.outstanding := by simp [hsame, houtstanding]
  exact ht.queue.unreplied hcb hreplied

theorem destroysReload_orphaned (h : Invariant chromium Waiter.Unanswered s)
    {input : ToolInput ρ} (hinput : s.DestroysReload input)
    (hstep : step chromium s input = some t) : t.Orphaned := by
  obtain ⟨callback, op, w, rfl, hfind, hwaiter⟩ := hinput
  have hop : op ∈ s.browser.operations := List.mem_of_find?_eq_some hfind
  have houtstanding := h.outstanding_operation hop
  obtain ⟨hops, -, -⟩ := Browser.held_operation (h.held.trans houtstanding) hop
  simp only [step, hfind, Option.bind_some, deliver, hwaiter, Waiter.deliver,
    ReloadWaiter.deliver, Option.some.injEq] at hstep
  subst hstep
  exact ⟨{ op with waiter := .reload { w with observing := false } }, { w with observing := false },
    by simp [withBrowser, Browser.setWaiter, hops], rfl, rfl⟩

theorem exec_unanswered {inputs : List (ToolInput ρ)}
    (hrun : Exec (Step (step chromium)) s inputs t) (h : Invariant chromium Waiter.Unanswered s) :
    Invariant chromium Waiter.Unanswered t :=
  hrun.invariant (fun _ _ _ hs hstep => step_unanswered hs hstep) h

theorem exec_orphaned {inputs : List (ToolInput ρ)} (hrun : Exec (Step (step chromium)) s inputs t)
    (h : Invariant chromium Waiter.Unanswered s) (horphan : s.Orphaned) :
    t.Orphaned ∧ acceptedReplies t.log = acceptedReplies s.log := by
  induction hrun with
  | nil => exact ⟨horphan, rfl⟩
  | cons head _ ih =>
      obtain ⟨horphan', -, hreplies⟩ := step_orphaned h horphan head
      obtain ⟨hlast, hsame⟩ := ih (step_unanswered h head) horphan'
      exact ⟨hlast, hsame.trans hreplies⟩

/-- After its tab is destroyed an operation has reported exactly once, unless it is a reload whose
tab had not stopped loading. While no run has told a pending reload of the destruction of its tab,
an outstanding call can be answered; from then on it never is, and neither is any other call. -/
theorem lostCompletion_iff (chromium : Chromium) (hasController : Bool) (runtime : ρ)
    (builder : BrowserRuntime.Builder ρ)
    (answersAtOnce : String → DictValue → Option ToolResult) :
    (∀ (rt : ρ) (page : WebContents) (waiter : Waiter) (before after : List TabEvent),
      WaitingOperation rt page waiter → .destroyed ∉ before →
        (CompletedOnce chromium page waiter before after ↔
          (waiter = .reload .start → .stopLoading ∈ before))) ∧
    (∀ inputs s, Exec (Guarded (Step (step chromium)) fun s input => ¬ DestroysReload s input)
        (start chromium hasController runtime builder answersAtOnce) inputs s →
      s.toolCallInProgress = true → CanComplete chromium s) ∧
    (∀ inputs input later s t u, Exec (Step (step chromium))
        (start chromium hasController runtime builder answersAtOnce) inputs s →
      DestroysReload s input → step chromium s input = some t →
      Exec (Step (step chromium)) t later u →
      u.toolCallInProgress = true ∧ ¬ CanComplete chromium u ∧
        acceptedReplies u.log = acceptedReplies t.log) := by
  refine ⟨?_, ?_, ?_⟩
  · intro rt page waiter before after hoperation hbefore
    exact hoperation.completedOnce_iff chromium after hbefore
  · intro inputs s hrun hprogress
    have hinv : Invariant chromium Waiter.Completable s :=
      hrun.invariant (fun _ _ _ hs hstep => step_completable hs hstep.1 hstep.2)
        (start_invariant _ chromium hasController runtime builder answersAtOnce)
    exact hinv.canComplete hprogress
  · intro inputs input later s t u hrun hinput hstep hlater
    have hs := exec_unanswered hrun
      (start_invariant _ chromium hasController runtime builder answersAtOnce)
    have ht := step_unanswered hs hstep
    have hu := exec_unanswered hlater ht
    obtain ⟨horphan, hreplies⟩ :=
      exec_orphaned hlater ht (destroysReload_orphaned hs hinput hstep)
    refine ⟨?_, orphaned_not_canComplete hu horphan, hreplies⟩
    obtain ⟨op, -, hops, -⟩ := horphan
    apply hu.queue.progress.mpr
    have hmem : op ∈ u.browser.operations := by simp [hops]
    simp [hu.outstanding_operation hmem]

/-- A server with one tab, and a reload of that tab. -/
def shopServer : ToolServer HeadlessRuntime :=
  start shopChromium true shopRuntime (fun _ => none) (fun _ _ => none)

def shopReload : List (ToolInput HeadlessRuntime) :=
  [.message [("method", .string "notifications/initialized")],
    .message (MCPServer.sampleCall 1 "browser_reload")]

theorem lostCompletion_sample :
    CompletedOnce shopChromium shopPage (.navigation (.start shopURL)) [] [.timeout] ∧
      ∃ s, Exec (Step (step shopChromium)) shopServer shopReload s ∧
        CanComplete shopChromium s := by
  obtain ⟨honce, hcan, -⟩ := lostCompletion_iff shopChromium true shopRuntime (fun _ => none)
    (fun _ _ => none)
  refine ⟨?_, ?_⟩
  · exact (honce shopRuntime shopPage (.navigation (.start shopURL)) [] [.timeout]
      (.navigate none shopURL _ rfl) (by simp)).mpr (by simp)
  · have hmessage (s : ToolServer HeadlessRuntime) (message : DictValue) :
        ¬ DestroysReload s (.message message) := by
      simp [DestroysReload]
    have hrun : Exec (Guarded (Step (step shopChromium)) fun s input => ¬ DestroysReload s input)
        shopServer shopReload _ :=
      .cons ⟨rfl, hmessage _ _⟩ (.cons ⟨rfl, hmessage _ _⟩ (.nil _))
    exact ⟨_, hrun.mono (fun _ _ _ h => h.1), hcan _ _ hrun rfl⟩

/-- The tab is destroyed before it stops loading: the reload reports nothing, and its call stays
in progress. -/
theorem reload_completion_lost :
    (¬ ∀ (chromium : Chromium) (rt : HeadlessRuntime) (page : WebContents) (waiter : Waiter)
        (before after : List TabEvent), WaitingOperation rt page waiter → .destroyed ∉ before →
        CompletedOnce chromium page waiter before after) ∧
      ∃ s, Exec (Step (step shopChromium)) shopServer
          (shopReload ++ [.waiterEvent 1 .webContentsDestroyed]) s ∧
        s.toolCallInProgress = true ∧ ¬ CanComplete shopChromium s := by
  constructor
  · intro h
    have hcompleted := h shopChromium shopRuntime shopPage (.reload .start) [] []
      (.reload none _ rfl) (by simp)
    cases hcompleted
  · have hrun : Exec (Step (step shopChromium)) shopServer
        (shopReload ++ [.waiterEvent 1 .webContentsDestroyed]) _ :=
      .cons rfl (.cons rfl (.cons rfl (.nil _)))
    have hinv := exec_unanswered hrun (start_invariant _ _ _ _ _ _)
    exact ⟨_, hrun, rfl, orphaned_not_canComplete hinv ⟨_, _, rfl, rfl, rfl⟩⟩

end ToolServer

end Browserd
