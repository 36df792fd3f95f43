import Browserd.Core.Cookies
import Browserd.Core.InteractionBounds
import Browserd.Core.WaitFor

/-!
# Calls of the controller that act inside a tab

What the controller is asked to do in a tab, what it starts there, and what the callback is given in
the end. A call is completed at once or leaves an operation, which needs no more than a known number
of answers. The MCP tools and the C API make the same calls.
-/

namespace Browserd

inductive EvaluateResult where
  | undefined
  | json (json : String)

/-- What the callback of a call is given. -/
inductive ControllerResult where
  | status (status : BrowserStatus)
  | evaluate (result : BrowserResult EvaluateResult)
  | text (result : BrowserResult String)
  | screenshot (result : BrowserResult (List UInt8))
  | tab (result : BrowserResult BrowserTabInfo)
  | tabs (result : BrowserResult (List BrowserTabInfo))
  | cookie (result : BrowserResult CookieInfo)
  | cookies (result : BrowserResult (List CookieInfo))

inductive PageCall where
  | interact (request : InteractionRequest)
  | evaluate (expression : String)
  | consoleMessages
  | snapshot
  | waitFor (options : WaitOptions)
  | selectOption (ref : String) (values : List String)
  | listCookies (options : CookieListOptions)
  | getCookie (options : CookieGetOptions)
  | setCookie (options : CookieSetOptions)
  | deleteCookie (options : CookieDeleteOptions)
  | clearCookies

/-- The scripts that are evaluated for a result, with the values written into them. -/
inductive PageEvaluation where
  | evaluate (expression : String)
  | consoleMessages
  | snapshot
  | waitFor (options : WaitOptions)
  | domSelect (index : Int) (values : List String)
  | selectFocused (node : Int) (values : List String)

/-- What has been started in a tab for a call that waits. -/
inductive PageOperation where
  | interaction (op : Interaction)
  | evaluation (request : JavaScriptEvaluationRequest) (script : PageEvaluation)
  | cookies {callback : CookieCallback} (request : CookieRequest callback)

/-- What reaches an operation: something that an interaction waits for, the outcome of an
evaluation, or the answer of the cookie manager. -/
inductive PageAnswer where
  | interaction (input : InteractionInput)
  | evaluated (outcome : EvaluationOutcome)
  | served

inductive PageProgress where
  | completed (result : ControllerResult)
  | waits (operation : PageOperation)

/-- What a call finds: the tab at an address as it is, random numbers, and the time. -/
structure PageSetting where
  views : Nat → TabView
  random : RandomDraws
  hasBrowserContext : Bool
  now : Int

/-- What all calls share. -/
structure PageState (κ : Type) where
  setting : PageSetting
  cookies : κ
  mouse : BezierPoint

/-- Chromium as the calls that act inside a tab use it. -/
structure PageChromium (κ : Type) extends Chromium where
  cookieManager : CookieManager κ
  base64Encode : List UInt8 → String

def OperationResult.toControllerResult : OperationResult → ControllerResult
  | .status s => .status s
  | .screenshot result => .screenshot result

namespace CookieCallback

def toControllerResult : (callback : CookieCallback) → callback.Argument → ControllerResult
  | .cookies, argument => .cookies argument
  | .cookie, argument => .cookie argument
  | .status, argument => .status argument

def failed (status : BrowserStatus) : CookieCallback → ControllerResult
  | .cookies => .cookies (.error status.code status.message)
  | .cookie => .cookie (.error status.code status.message)
  | .status => .status status

end CookieCallback

namespace BrowserController

def toEvaluateResult (chromium : Chromium) (result : DevToolsEvaluationResult) : EvaluateResult :=
  if result.isUndefined then .undefined
  else
    match result.value with
    | .none => .undefined
    | value => .json (chromium.writeJSON value)

/-- The callbacks of evaluations pass an error on and read the value of a result. -/
def readResult {α : Type} (read : DevToolsEvaluationResult → BrowserResult α)
    (result : BrowserResult DevToolsEvaluationResult) : BrowserResult α :=
  match result.value with
  | some value =>
      if !result.status.isOk then .error result.status.code result.status.message else read value
  | none => .error result.status.code result.status.message

def evaluateResult (chromium : Chromium) :
    BrowserResult DevToolsEvaluationResult → BrowserResult EvaluateResult :=
  readResult fun value => .ok (toEvaluateResult chromium value)

def consoleMessagesResult : BrowserResult DevToolsEvaluationResult → BrowserResult String :=
  readResult fun value =>
    match value.value with
    | .string messages => .ok messages
    | _ => .ok "[]"

def snapshotResult : BrowserResult DevToolsEvaluationResult → BrowserResult String :=
  readResult fun value =>
    match value.value with
    | .string text => .ok text
    | _ => .error .internalError "DOM snapshot returned no text"

end BrowserController

namespace PageEvaluation

/-- In milliseconds. -/
def timeout : PageEvaluation → Int
  | .waitFor options => options.nativeTimeout.toInt
  | _ => 10000

/-- What becomes of the result of the evaluation. -/
def toControllerResult (chromium : Chromium) (script : PageEvaluation)
    (result : BrowserResult DevToolsEvaluationResult) : ControllerResult :=
  match script with
  | .evaluate _ => .evaluate (BrowserController.evaluateResult chromium result)
  | .consoleMessages => .text (BrowserController.consoleMessagesResult result)
  | .snapshot => .text (BrowserController.snapshotResult result)
  | .waitFor _ => .status (waitStatus result)
  | .domSelect _ _ => .status (evalStatus result)
  | .selectFocused _ _ => .status (evalStatus result)

end PageEvaluation

namespace BrowserController

variable {ρ : Type} [BrowserRuntime ρ] {κ : Type} (chromium : PageChromium κ) (rt : ρ)
  (targetId : Option String) (state : PageState κ)

/-- What the tab is like; without one no operation looks. -/
def tabView : TabView :=
  match resolveWebContents rt targetId with
  | some page => state.setting.views page.address
  | none => ⟨false, false, false, false⟩

def startInteraction (request : InteractionRequest) : PageState κ × PageProgress :=
  let op := Interaction.request rt targetId (tabView rt targetId state) state.setting.random
    state.mouse request
  let state := { state with mouse := op.mouse }
  match reportedResults op.log with
  | result :: _ => (state, .completed result.toControllerResult)
  | [] => (state, .waits (.interaction op))

def startEvaluation (script : PageEvaluation) : PageProgress :=
  match resolveWebContents rt targetId with
  | none =>
      let status := tabNotFound targetId
      .completed (script.toControllerResult chromium.toChromium
        (.error status.code status.message))
  | some page =>
      match JavaScriptEvaluationRequest.start (some (state.setting.views page.address))
          script.timeout with
      | (_, some result) => .completed (script.toControllerResult chromium.toChromium result)
      | (request, none) => .waits (.evaluation request script)

/-- The checks of `WaitFor` before its script is evaluated. -/
def startWaitFor (options : WaitOptions) : PageProgress :=
  match resolveWebContents rt targetId with
  | none => .completed (.status (tabNotFound targetId))
  | some _ =>
      match options.awaited with
      | none =>
          .completed (.status
            (.error .invalidArgument "Must provide either selector or text to wait for"))
      | some _ => startEvaluation chromium rt targetId state (.waitFor options)

/-- `SelectOption`; the accessibility action that focuses the node comes before the script. -/
def selectOption (ref : String) (values : List String) : PageProgress :=
  match resolveWebContents rt targetId with
  | none => .completed (.status (tabNotFound targetId))
  | some page =>
      match parseDomRef ref with
      | some index => startEvaluation chromium rt targetId state (.domSelect index values)
      | none =>
          match parseRef ref with
          | none => .completed (.status invalidRef)
          | some node =>
              if !(state.setting.views page.address).hasMainFrame then
                .completed (.status noActiveFrame)
              else startEvaluation chromium rt targetId state (.selectFocused node values)

def startCookies {callback : CookieCallback}
    (started : Except BrowserStatus (CookieRequest callback)) : PageProgress :=
  match started with
  | .error status => .completed (callback.failed status)
  | .ok request => .waits (.cookies request)

def startCall : PageCall → PageState κ × PageProgress
  | .interact request => startInteraction rt targetId state request
  | .evaluate expression =>
      (state, startEvaluation chromium rt targetId state (.evaluate expression))
  | .consoleMessages => (state, startEvaluation chromium rt targetId state .consoleMessages)
  | .snapshot => (state, startEvaluation chromium rt targetId state .snapshot)
  | .waitFor options => (state, startWaitFor chromium rt targetId state options)
  | .selectOption ref values => (state, selectOption chromium rt targetId state ref values)
  | .listCookies options =>
      (state, startCookies
        (listCookies chromium.toChromium rt targetId state.setting.hasBrowserContext options))
  | .getCookie options =>
      (state, startCookies (getCookie rt targetId state.setting.hasBrowserContext options))
  | .setCookie options =>
      (state, startCookies
        (setCookie chromium.toChromium chromium.cookieManager state.setting.now rt targetId
          state.setting.hasBrowserContext options))
  | .deleteCookie options =>
      (state, startCookies
        (deleteCookie chromium.toChromium rt targetId state.setting.hasBrowserContext options))
  | .clearCookies =>
      (state, startCookies (clearCookies rt targetId state.setting.hasBrowserContext))

end BrowserController

namespace PageOperation

variable {κ : Type}

/-- The operation takes an answer of its own kind. -/
def deliver (chromium : PageChromium κ) (state : PageState κ) :
    PageOperation → PageAnswer → Option (PageState κ × PageProgress)
  | .interaction op, .interaction input =>
      let op := { op with mouse := state.mouse }.step chromium.toChromium input
      let state := { state with mouse := op.mouse }
      match reportedResults op.log with
      | result :: _ => some (state, .completed result.toControllerResult)
      | [] => some (state, .waits (.interaction op))
  | .evaluation request script, .evaluated outcome =>
      match request.deliver chromium.toChromium outcome with
      | (_, some result) =>
          some (state, .completed (script.toControllerResult chromium.toChromium result))
      | (request, none) => some (state, .waits (.evaluation request script))
  | @PageOperation.cookies c request, .served =>
      let (store, result) := request.serve chromium.cookieManager state.cookies
      some ({ state with cookies := store }, .completed (c.toControllerResult result))
  | _, _ => none

/-- The operation has not called back, and is to be told something. -/
def Pending : PageOperation → Prop
  | .interaction op => op.waitingFor.isSome = true ∧ reportedResults op.log = []
  | .evaluation request _ => request.callback = true
  | .cookies _ => True

/-- The answers that the operation still takes, at the most. -/
def answersLeft : PageOperation → Nat
  | .interaction op => (op.waitingFor.map Suspension.answersLeft).getD 0
  | .evaluation _ _ => 1
  | .cookies _ => 1

/-- The answer is one that the operation waits for; the timer of an evaluation expires only while
it runs. -/
def awaits : PageOperation → PageAnswer → Bool
  | .interaction op, .interaction input => op.awaits input
  | .evaluation _ _, .evaluated (.result _ _) => true
  | .evaluation request _, .evaluated .timeout => request.timeoutTimer
  | .cookies _, .served => true
  | _, _ => false

end PageOperation

/-- A callback finds a value exactly if the status is OK. -/
def ControllerResult.Consistent : ControllerResult → Prop
  | .status _ => True
  | .evaluate result => result.Consistent
  | .text result => result.Consistent
  | .screenshot result => result.Consistent
  | .tab result => result.Consistent
  | .tabs result => result.Consistent
  | .cookie result => result.Consistent
  | .cookies result => result.Consistent

/-- The call is completed, or its operation has not called back. -/
inductive PageProgress.Proper : PageProgress → Prop
  | completed {result : ControllerResult} (consistent : result.Consistent) :
      Proper (.completed result)
  | waits {operation : PageOperation} (pending : operation.Pending) : Proper (.waits operation)

section Results

theorem OperationResult.Consistent.toControllerResult {result : OperationResult}
    (h : result.Consistent) : result.toControllerResult.Consistent := by
  cases result with
  | status s => trivial
  | screenshot result => exact h

theorem tabNotFound_isOk (targetId : Option String) : (tabNotFound targetId).isOk = false := rfl

theorem evaluationResult_consistent (chromium : Chromium) (outcome : EvaluationOutcome) :
    (evaluationResult chromium outcome).Consistent := by
  cases outcome with
  | result isSuccess value =>
      cases isSuccess with
      | false => exact BrowserResult.error_consistent (by decide) _
      | true => cases value <;> exact BrowserResult.ok_consistent _
  | timeout => exact BrowserResult.error_consistent (by decide) _

namespace JavaScriptEvaluationRequest

theorem complete_consistent {r : JavaScriptEvaluationRequest}
    {given result : BrowserResult DevToolsEvaluationResult} (hgiven : given.Consistent)
    (h : (r.complete given).2 = some result) : result.Consistent := by
  rw [complete] at h
  split at h
  · obtain rfl := Option.some.inj h
    exact hgiven
  · cases h

theorem start_consistent {page : Option TabView} {timeout : Int}
    {result : BrowserResult DevToolsEvaluationResult} (h : (start page timeout).2 = some result) :
    result.Consistent := by
  cases page with
  | none => exact complete_consistent (BrowserResult.error_consistent (by decide) _) h
  | some view =>
      simp only [start] at h
      split at h
      · exact complete_consistent (BrowserResult.error_consistent (by decide) _) h
      · cases h

theorem deliver_consistent {chromium : Chromium} {r : JavaScriptEvaluationRequest}
    {outcome : EvaluationOutcome} {result : BrowserResult DevToolsEvaluationResult}
    (h : (r.deliver chromium outcome).2 = some result) : result.Consistent := by
  have hgiven := evaluationResult_consistent chromium outcome
  cases outcome with
  | result isSuccess value => exact complete_consistent hgiven h
  | timeout =>
      simp only [deliver] at h
      split at h
      · exact complete_consistent hgiven h
      · cases h

end JavaScriptEvaluationRequest

theorem BrowserController.readResult_consistent {α : Type}
    {read : DevToolsEvaluationResult → BrowserResult α}
    (hread : ∀ value, (read value).Consistent) {result : BrowserResult DevToolsEvaluationResult}
    (h : result.Consistent) : (readResult read result).Consistent := by
  rw [readResult]
  split
  · split
    · rename_i hstatus
      exact BrowserResult.passed_consistent (by simpa using hstatus)
    · exact hread _
  · rename_i hvalue
    exact BrowserResult.passed_consistent (h.symm.trans (by rw [hvalue]; rfl))

theorem PageEvaluation.toControllerResult_consistent (chromium : Chromium)
    (script : PageEvaluation) {result : BrowserResult DevToolsEvaluationResult}
    (h : result.Consistent) : (script.toControllerResult chromium result).Consistent := by
  cases script with
  | evaluate expression =>
      exact BrowserController.readResult_consistent (fun _ => BrowserResult.ok_consistent _) h
  | consoleMessages =>
      refine BrowserController.readResult_consistent (fun value => ?_) h
      split <;> exact BrowserResult.ok_consistent _
  | snapshot =>
      refine BrowserController.readResult_consistent (fun value => ?_) h
      split
      · exact BrowserResult.ok_consistent _
      · exact BrowserResult.error_consistent (by decide) _
  | _ => trivial

theorem cookieNamed_consistent (name : String) (result : BrowserResult (List CookieInfo)) :
    (cookieNamed name result).Consistent := by
  rw [cookieNamed]
  split
  · rename_i hstatus
    exact BrowserResult.passed_consistent (by simpa using hstatus)
  split
  · exact BrowserResult.ok_consistent _
  · exact BrowserResult.error_consistent (by decide) _

theorem CookieRequest.serve_consistent {κ : Type} (m : CookieManager κ) (store : κ)
    {callback : CookieCallback} (request : CookieRequest callback) :
    (callback.toControllerResult (request.serve m store).2).Consistent := by
  cases request with
  | listCookies url => cases url <;> exact BrowserResult.ok_consistent _
  | getCookie name => exact cookieNamed_consistent name _
  | _ => trivial

theorem CookieCallback.failed_consistent {status : BrowserStatus} (h : status.isOk = false)
    (callback : CookieCallback) : (callback.failed status).Consistent := by
  cases callback with
  | status => trivial
  | _ => exact BrowserResult.passed_consistent h

end Results

section Starting

variable {ρ : Type} [BrowserRuntime ρ] {κ : Type} (chromium : PageChromium κ) (rt : ρ)
  (targetId : Option String) (state : PageState κ)

namespace BrowserController

theorem startInteraction_proper (request : InteractionRequest) :
    (startInteraction rt targetId state request).2.Proper := by
  have hstarted := Interaction.request_endsWithin rt targetId (tabView rt targetId state)
    state.setting.random state.mouse request
  simp only [startInteraction]
  generalize Interaction.request rt targetId (tabView rt targetId state) state.setting.random
    state.mouse request = op at hstarted ⊢
  cases hstarted with
  | finished waitingFor result results consistent =>
      rw [results]
      exact .completed consistent.toControllerResult
  | waits suspension waitingFor results answers =>
      have hpending : (PageOperation.interaction op).Pending := ⟨by simp [waitingFor], results⟩
      rw [results]
      exact .waits hpending

theorem startEvaluation_proper (script : PageEvaluation) :
    (startEvaluation chromium rt targetId state script).Proper := by
  rw [startEvaluation]
  split
  · exact .completed (script.toControllerResult_consistent _
      (BrowserResult.passed_consistent (tabNotFound_isOk targetId)))
  split
  · rename_i request result hstart
    exact .completed (script.toControllerResult_consistent _
      (JavaScriptEvaluationRequest.start_consistent (congrArg Prod.snd hstart)))
  · rename_i request hstart
    apply PageProgress.Proper.waits
    simp only [JavaScriptEvaluationRequest.start] at hstart
    split at hstart
    · cases hstart
    · obtain rfl := (Prod.mk.inj hstart).1
      rfl

theorem startWaitFor_proper (options : WaitOptions) :
    (startWaitFor chromium rt targetId state options).Proper := by
  rw [startWaitFor]
  split
  · exact .completed trivial
  split
  · exact .completed trivial
  · exact startEvaluation_proper chromium rt targetId state _

theorem selectOption_proper (ref : String) (values : List String) :
    (selectOption chromium rt targetId state ref values).Proper := by
  rw [selectOption]
  split
  · exact .completed trivial
  split
  · exact startEvaluation_proper chromium rt targetId state _
  split
  · exact .completed trivial
  split
  · exact .completed trivial
  · exact startEvaluation_proper chromium rt targetId state _

theorem startCookies_proper {callback : CookieCallback} (hasBrowserContext : Bool)
    {next : WebContents → Except BrowserStatus (CookieRequest callback)}
    (hnext : ∀ page status, next page = .error status → status.isOk = false) :
    (startCookies (withCookieManager rt targetId hasBrowserContext next)).Proper := by
  have failed {status : BrowserStatus} (h : status.isOk = false) :
      (startCookies (.error status : Except BrowserStatus (CookieRequest callback))).Proper :=
    .completed (CookieCallback.failed_consistent h callback)
  rw [withCookieManager]
  split
  · exact failed (tabNotFound_isOk targetId)
  split
  · exact failed rfl
  · rename_i page hpage hcontext
    cases hstarted : next page with
    | error status => exact failed (hnext page status hstarted)
    | ok request => exact .waits trivial

/-- A call is completed at once or leaves an operation that waits. -/
theorem startCall_proper (call : PageCall) :
    (startCall chromium rt targetId state call).2.Proper := by
  cases call with
  | interact request => exact startInteraction_proper rt targetId state request
  | evaluate expression => exact startEvaluation_proper chromium rt targetId state _
  | consoleMessages => exact startEvaluation_proper chromium rt targetId state _
  | snapshot => exact startEvaluation_proper chromium rt targetId state _
  | waitFor options => exact startWaitFor_proper chromium rt targetId state options
  | selectOption ref values => exact selectOption_proper chromium rt targetId state ref values
  | setCookie options =>
      apply startCookies_proper
      intro page status h
      simp only at h
      split at h
      · obtain rfl := Except.error.inj h
        rfl
      · cases h
  | _ => exact startCookies_proper rt targetId _ fun _ _ h => nomatch h

end BrowserController

end Starting

section Answers

variable {κ : Type} {chromium : PageChromium κ} {state state' : PageState κ}
  {operation : PageOperation} {answer : PageAnswer}

/-- Only the expiry of a timer that does not run leaves an evaluation as it was. -/
theorem JavaScriptEvaluationRequest.deliver_none {chromium : Chromium}
    {request request' : JavaScriptEvaluationRequest} {outcome : EvaluationOutcome}
    (hcallback : request.callback = true)
    (h : request.deliver chromium outcome = (request', none)) :
    request' = request ∧ outcome = .timeout ∧ request.timeoutTimer = false := by
  cases outcome with
  | result isSuccess value =>
      rw [deliver, complete_waiting hcallback] at h
      cases (Prod.mk.inj h).2
  | timeout =>
      by_cases htimer : request.timeoutTimer = true
      · have hcallback' : ({ request with timeoutTimer := false } :
            JavaScriptEvaluationRequest).callback = true := hcallback
        rw [deliver, if_pos htimer, complete_waiting hcallback'] at h
        cases (Prod.mk.inj h).2
      · rw [deliver, if_neg htimer] at h
        exact ⟨(Prod.mk.inj h).1.symm, rfl, by simpa using htimer⟩

namespace PageOperation

/-- What an operation is completed with. -/
theorem deliver_completed {result : ControllerResult} (hpending : operation.Pending)
    (h : operation.deliver chromium state answer = some (state', .completed result)) :
    result.Consistent := by
  cases operation with
  | interaction op =>
      cases answer with
      | interaction input =>
          obtain ⟨suspension, hsuspension⟩ := Option.isSome_iff_exists.mp hpending.1
          let moved : Interaction := { op with mouse := state.mouse }
          have hends : moved.EndsWithin suspension.answersLeft :=
            .waits suspension hsuspension hpending.2 le_rfl
          have hconsistent := (hends.run chromium.toChromium [input]).2.consistent
          simp only [deliver] at h
          split at h
          · rename_i reported rest hresults
            obtain ⟨-, hprogress⟩ := Prod.mk.inj (Option.some.inj h)
            obtain rfl := PageProgress.completed.inj hprogress
            refine (hconsistent reported ?_).toControllerResult
            show reported ∈ reportedResults (moved.step chromium.toChromium input).log
            rw [hresults]
            exact List.mem_cons_self
          · cases (Prod.mk.inj (Option.some.inj h)).2
      | _ => cases h
  | evaluation request script =>
      cases answer with
      | evaluated outcome =>
          simp only [deliver] at h
          split at h
          · rename_i request' delivered hdeliver
            obtain ⟨-, hprogress⟩ := Prod.mk.inj (Option.some.inj h)
            obtain rfl := PageProgress.completed.inj hprogress
            exact script.toControllerResult_consistent _
              (JavaScriptEvaluationRequest.deliver_consistent (congrArg Prod.snd hdeliver))
          · cases (Prod.mk.inj (Option.some.inj h)).2
      | _ => cases h
  | cookies request =>
      cases answer with
      | served =>
          obtain ⟨-, hprogress⟩ := Prod.mk.inj (Option.some.inj h)
          obtain rfl := PageProgress.completed.inj hprogress
          exact request.serve_consistent chromium.cookieManager state.cookies
      | _ => cases h

/-- An operation that still waits after an answer waits for fewer, if the answer was one that it
waited for. -/
theorem deliver_waits {operation' : PageOperation} (hpending : operation.Pending)
    (h : operation.deliver chromium state answer = some (state', .waits operation')) :
    operation'.Pending ∧
      operation'.answersLeft + (if operation.awaits answer then 1 else 0) ≤
        operation.answersLeft := by
  cases operation with
  | interaction op =>
      cases answer with
      | interaction input =>
          obtain ⟨hwaiting, hresults⟩ := hpending
          obtain ⟨suspension, hsuspension⟩ := Option.isSome_iff_exists.mp hwaiting
          let moved : Interaction := { op with mouse := state.mouse }
          have hends : moved.EndsWithin suspension.answersLeft :=
            .waits suspension hsuspension hresults le_rfl
          have hmoved : moved.awaits input = op.awaits input := rfl
          simp only [deliver] at h
          split at h
          · cases (Prod.mk.inj (Option.some.inj h)).2
          · rename_i hnone
            obtain ⟨-, hprogress⟩ := Prod.mk.inj (Option.some.inj h)
            obtain rfl := PageProgress.waits.inj hprogress
            have hleft : (moved.step chromium.toChromium input).EndsWithin
                (suspension.answersLeft - if op.awaits input then 1 else 0) := by
              cases hawaits : op.awaits input with
              | true => exact (hends.answer chromium.toChromium (hmoved.trans hawaits)).2
              | false => exact hends.ignore chromium.toChromium (hmoved.trans hawaits)
            have hpos := suspension.answersLeft_pos
            cases hleft with
            | finished waitingFor result results consistent => simp [moved, hnone] at results
            | waits suspension' waitingFor results answers =>
                refine ⟨⟨Option.isSome_iff_exists.mpr ⟨suspension', waitingFor⟩, results⟩, ?_⟩
                show ((moved.step chromium.toChromium input).waitingFor.map
                    Suspension.answersLeft).getD 0 + (if op.awaits input = true then 1 else 0) ≤
                  (op.waitingFor.map Suspension.answersLeft).getD 0
                rw [hsuspension, waitingFor, Option.map_some, Option.map_some, Option.getD_some,
                  Option.getD_some]
                by_cases hawaits : op.awaits input = true
                · rw [if_pos hawaits] at answers ⊢
                  omega
                · rw [if_neg hawaits] at answers ⊢
                  omega
      | _ => cases h
  | evaluation request script =>
      cases answer with
      | evaluated outcome =>
          simp only [deliver] at h
          split at h
          · cases (Prod.mk.inj (Option.some.inj h)).2
          · rename_i request' hdeliver
            obtain ⟨-, hprogress⟩ := Prod.mk.inj (Option.some.inj h)
            obtain rfl := PageProgress.waits.inj hprogress
            obtain ⟨rfl, rfl, htimer⟩ :=
              JavaScriptEvaluationRequest.deliver_none hpending hdeliver
            exact ⟨hpending, by simp [answersLeft, awaits, htimer]⟩
      | _ => cases h
  | cookies request =>
      cases answer with
      | served => cases (Prod.mk.inj (Option.some.inj h)).2
      | _ => cases h

namespace Pending

theorem answersLeft_pos (h : operation.Pending) : 0 < operation.answersLeft := by
  cases operation with
  | interaction op =>
      obtain ⟨suspension, hsuspension⟩ := Option.isSome_iff_exists.mp h.1
      show 0 < (op.waitingFor.map Suspension.answersLeft).getD 0
      rw [hsuspension]
      exact suspension.answersLeft_pos
  | evaluation request script => exact Nat.one_pos
  | cookies request => exact Nat.one_pos

/-- An operation that has not called back waits for something. -/
theorem exists_awaited (h : operation.Pending) : ∃ answer, operation.awaits answer = true := by
  have view : TabView := ⟨true, true, true, true⟩
  have random : RandomDraws := ⟨fun _ => 0, 0⟩
  cases operation with
  | interaction op =>
      obtain ⟨suspension, hsuspension⟩ := Option.isSome_iff_exists.mp h.1
      have hawaits (input : InteractionInput) (hinput : suspension.awaits input = true) :
          ∃ answer, (PageOperation.interaction op).awaits answer = true := by
        refine ⟨.interaction input, ?_⟩
        show op.awaits input = true
        simp [Interaction.awaits, hsuspension, hinput]
      cases suspension with
      | task posted => exact hawaits (.runTask view random) rfl
      | axSnapshot use => exact hawaits (.axTree [] view random) rfl
      | evalStatus => exact hawaits (.evaluated .timeout) rfl
      | changeEvent => exact hawaits (.evaluated .timeout) rfl
      | screenshot => exact hawaits (.screenshotTimeout view) rfl
      | screenshotFallback => exact hawaits (.evaluated .timeout) rfl
  | evaluation request script => exact ⟨.evaluated (.result true .none), rfl⟩
  | cookies request => exact ⟨.served, rfl⟩

end Pending

/-- An operation takes what it waits for. -/
theorem deliver_isSome (h : operation.awaits answer = true) :
    (operation.deliver chromium state answer).isSome = true := by
  cases operation with
  | interaction op =>
      cases answer with
      | interaction input =>
          simp only [deliver]
          split <;> rfl
      | _ => cases h
  | evaluation request script =>
      cases answer with
      | evaluated outcome =>
          simp only [deliver]
          split <;> rfl
      | _ => cases h
  | cookies request =>
      cases answer with
      | served => rfl
      | _ => cases h

end PageOperation

end Answers

end Browserd
