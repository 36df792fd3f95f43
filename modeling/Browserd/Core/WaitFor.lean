import Mathlib.Algebra.Ring.Int.Defs
import Browserd.Core.AsyncRequests
import Browserd.Core.InteractionRuns
import Browserd.Core.NavigationCompleteness
import Browserd.Lib.Exec

/-!
# Waiting for a selector or a text

`WaitFor` runs a script that looks at the page every 100 ms, and rejects its promise when the
timeout has passed. The evaluation has a timer of its own. Only the timer is reported as a timeout.
-/

namespace Browserd

open Transition (Exec Step)

structure WaitOptions where
  selector : Option String
  text : Option String
  timeoutMs : Int32

inductive Awaited where
  | selector (selector : String)
  | text (text : String)

/-- What a check finds in the page; `querySelector` throws where it has no value, and there is no
`innerText` without a body. -/
structure WaitDocument where
  querySelector : String → Option Bool
  innerText : Option String

namespace WaitOptions

/-- A selector is preferred to a text. -/
def awaited (options : WaitOptions) : Option Awaited :=
  match options.selector with
  | some css => some (.selector css)
  | none => options.text.map .text

/-- The timeout that is written into the script. -/
def timeout (options : WaitOptions) : Int32 :=
  if 0 < options.timeoutMs then options.timeoutMs else 30000

/-- The timeout of the evaluation, whose sum wraps around. -/
def nativeTimeout (options : WaitOptions) : Int32 := options.timeout + 1000

theorem timeout_pos (options : WaitOptions) : 0 < options.timeout.toInt := by
  rw [timeout]
  split
  · rename_i hpos
    exact Int32.lt_iff_toInt_lt.mp hpos
  · decide

theorem timeout_lt_iff (options : WaitOptions) :
    options.timeout.toInt + 1000 < 2 ^ 31 ↔ options.timeoutMs.toInt + 1000 < 2 ^ 31 := by
  rw [timeout]
  split
  · rfl
  · rename_i hpos
    have hdefault : (30000 : Int32).toInt = 30000 := by decide
    rw [Int32.lt_iff_toInt_lt, Int32.toInt_zero] at hpos
    omega

theorem nativeTimeout_toInt (options : WaitOptions) :
    options.nativeTimeout.toInt =
      if options.timeoutMs.toInt + 1000 < 2 ^ 31 then options.timeout.toInt + 1000
      else options.timeout.toInt + 1000 - 2 ^ 32 := by
  have hpos := options.timeout_pos
  have hlt := options.timeout.toInt_lt
  have hmargin : (1000 : Int32).toInt = 1000 := by decide
  have hiff := options.timeout_lt_iff
  rw [nativeTimeout, Int32.toInt_add, hmargin]
  simp only [Int.bmod]
  omega

theorem nativeTimeout_pos_iff (options : WaitOptions) :
    0 < options.nativeTimeout.toInt ↔ options.timeoutMs.toInt + 1000 < 2 ^ 31 := by
  have hpos := options.timeout_pos
  have hlt := options.timeout.toInt_lt
  rw [options.nativeTimeout_toInt]
  omega

end WaitOptions

/-- Whether the page has what is awaited, unless the check throws. -/
def Awaited.isFound (awaited : Awaited) (document : WaitDocument) : Option Bool :=
  match awaited with
  | .selector css => document.querySelector css
  | .text part =>
      some (match document.innerText with
        | some innerText => decide (part.toList <:+: innerText.toList)
        | none => false)

/-- The promise of the script with what is still to run: its first check, a check from
`setTimeout`, or the answer of the evaluation. -/
inductive WaitPromise where
  | created
  | checking
  | resolved
  | rejected
  | over
  deriving DecidableEq

/-- The script, with the values that are written into it. -/
structure WaitScript where
  awaited : Awaited
  timeout : Int32

/-- One `check`, with the time since the first. What the first throws rejects the promise, and what
a later one throws goes nowhere. -/
def WaitScript.check (script : WaitScript) (isFirst : Bool) (document : WaitDocument)
    (elapsed : Int) : WaitPromise :=
  match script.awaited.isFound document with
  | none => if isFirst then .rejected else .over
  | some true => .resolved
  | some false => if script.timeout.toInt < elapsed then .rejected else .checking

theorem WaitScript.isFound_of_check_resolved {script : WaitScript} {isFirst : Bool}
    {document : WaitDocument} {elapsed : Int}
    (h : script.check isFirst document elapsed = .resolved) :
    script.awaited.isFound document = some true := by
  rw [check] at h
  split at h
  · split at h <;> cases h
  · assumption
  · split at h <;> cases h

/-- The callback that `WaitFor` gives to the evaluation. -/
def waitStatus (result : BrowserResult DevToolsEvaluationResult) : BrowserStatus :=
  if !result.status.isOk then .error result.status.code result.status.message
  else
    match result.value with
    | some ⟨_, .string s⟩ => if s = "found" then .ok else .error .timeout "Wait timeout"
    | _ => .error .timeout "Wait timeout"

/-- The timeout of the script is a rejection like any other. -/
theorem waitStatus_rejected_code (chromium : Chromium) (reason : Value) :
    (waitStatus (evaluationResult chromium (.result false reason))).code = .internalError := rfl

/-- A wait whose script has been sent to the page; `reported` has what the callback was given. -/
structure PendingWait where
  script : WaitScript
  promise : WaitPromise
  request : JavaScriptEvaluationRequest
  reported : List BrowserStatus

/-- The evaluation answers with the settled promise; `reason` is what Chromium makes of a
rejection. -/
inductive WaitEvent where
  | check (document : WaitDocument) (elapsed : Int)
  | settled (reason : Value)
  | timer

namespace BrowserController

variable {ρ : Type} [BrowserRuntime ρ]

/-- Fails with the status that is reported at once. -/
def waitFor (rt : ρ) (targetId : Option String) (options : WaitOptions) (view : TabView) :
    Except BrowserStatus PendingWait :=
  match resolveWebContents rt targetId with
  | none => .error (tabNotFound targetId)
  | some _ =>
      match options.awaited with
      | none =>
          .error (.error .invalidArgument "Must provide either selector or text to wait for")
      | some awaited =>
          let (request, result) :=
            JavaScriptEvaluationRequest.start (some view) options.nativeTimeout.toInt
          .ok ⟨⟨awaited, options.timeout⟩, .created, request, result.toList.map waitStatus⟩

end BrowserController

namespace PendingWait

def deliver (chromium : Chromium) (outcome : EvaluationOutcome) (w : PendingWait) : PendingWait :=
  let (request, result) := w.request.deliver chromium outcome
  { w with
    request := request
    reported := w.reported ++ result.toList.map waitStatus }

def step (chromium : Chromium) (w : PendingWait) : WaitEvent → Option PendingWait
  | .check document elapsed =>
      match w.promise with
      | .created => some { w with promise := w.script.check true document elapsed }
      | .checking => some { w with promise := w.script.check false document elapsed }
      | _ => none
  | .settled reason =>
      match w.promise with
      | .resolved =>
          some { w.deliver chromium (.result true (.string "found")) with promise := .over }
      | .rejected => some { w.deliver chromium (.result false reason) with promise := .over }
      | _ => none
  | .timer => if w.request.timeoutTimer then some (w.deliver chromium .timeout) else none

/-- The callback has not run, and the timer runs if its timeout is positive. -/
structure Waiting (armed : Bool) (w : PendingWait) : Prop where
  callback : w.request.callback = true
  timeoutTimer : w.request.timeoutTimer = armed
  reported : w.reported = []

/-- The callback has run, once. -/
structure Reported (status : BrowserStatus) (w : PendingWait) : Prop where
  callback : w.request.callback = false
  timeoutTimer : w.request.timeoutTimer = false
  reported : w.reported = [status]

/-- Nothing is left that could report. -/
def Ended (w : PendingWait) : Prop :=
  w.request.callback = false ∨ (w.request.timeoutTimer = false ∧ w.promise = .over)

end PendingWait

namespace WaitEvent

/-- The events by which the evaluation may be answered. -/
def answers : WaitEvent → Bool
  | check _ _ => false
  | settled _ => true
  | timer => true

/-- A check that finds what is awaited. -/
def Finds (awaited : Awaited) : WaitEvent → Prop
  | check document _ => awaited.isFound document = some true
  | _ => False

end WaitEvent

namespace PendingWait

variable (chromium : Chromium) {w next : PendingWait} {event : WaitEvent} {status : BrowserStatus}
  {armed : Bool}

theorem deliver_reported (h : w.Reported status) (outcome : EvaluationOutcome) :
    w.deliver chromium outcome = w := by
  have hrequest := JavaScriptEvaluationRequest.deliver_finished chromium
    ⟨h.callback, h.timeoutTimer⟩ outcome
  simp [deliver, hrequest]

theorem deliver_result (h : w.Waiting armed) (isSuccess : Bool) (value : Value) :
    (w.deliver chromium (.result isSuccess value)).Reported
      (waitStatus (evaluationResult chromium (.result isSuccess value))) := by
  have hrequest : w.request.deliver chromium (.result isSuccess value) =
      (⟨false, false, w.request.completion ++
          [.ranCallback (evaluationResult chromium (.result isSuccess value)), .postedDeletion]⟩,
        some (evaluationResult chromium (.result isSuccess value))) :=
    JavaScriptEvaluationRequest.complete_waiting h.callback _
  constructor
  · simp [deliver, hrequest]
  · simp [deliver, hrequest]
  · simp [deliver, hrequest, h.reported]

theorem deliver_timeout (h : w.Waiting true) :
    (w.deliver chromium .timeout).Reported
      (.error .timeout "JavaScript evaluation timeout") := by
  have hrequest : w.request.deliver chromium .timeout =
      (⟨false, false, w.request.completion ++
          [.ranCallback (evaluationResult chromium .timeout), .postedDeletion]⟩,
        some (evaluationResult chromium .timeout)) := by
    rw [JavaScriptEvaluationRequest.deliver]
    simp only [h.timeoutTimer, if_true]
    exact JavaScriptEvaluationRequest.complete_waiting
      (r := { w.request with timeoutTimer := false }) h.callback _
  constructor
  · simp [deliver, hrequest]
  · simp [deliver, hrequest]
  · simp [deliver, hrequest, h.reported]
    rfl

/-- What a step does to a wait whose callback has not run. -/
inductive StepOutcome (armed : Bool) (w : PendingWait) : WaitEvent → PendingWait → Prop
  | checked (document : WaitDocument) (elapsed : Int) (isFirst : Bool) (next : PendingWait)
      (waiting : next.Waiting armed) (script : next.script = w.script)
      (promise : next.promise = w.script.check isFirst document elapsed) :
      StepOutcome armed w (.check document elapsed) next
  | resolved (reason : Value) (next : PendingWait) (was : w.promise = .resolved)
      (reported : next.Reported .ok) : StepOutcome armed w (.settled reason) next
  | rejected (reason : Value) (next : PendingWait) (was : w.promise = .rejected)
      (reported : next.Reported
        (waitStatus (evaluationResult chromium (.result false reason)))) :
      StepOutcome armed w (.settled reason) next
  | expired (next : PendingWait)
      (reported : next.Reported (.error .timeout "JavaScript evaluation timeout")) :
      StepOutcome armed w .timer next

theorem step_waiting (h : w.Waiting armed) (hstep : w.step chromium event = some next) :
    StepOutcome chromium armed w event next := by
  cases event with
  | check document elapsed =>
      simp only [step] at hstep
      split at hstep
      · cases hstep
        exact .checked document elapsed true _ ⟨h.callback, h.timeoutTimer, h.reported⟩ rfl rfl
      · cases hstep
        exact .checked document elapsed false _ ⟨h.callback, h.timeoutTimer, h.reported⟩ rfl rfl
      · cases hstep
  | settled reason =>
      simp only [step] at hstep
      split at hstep
      · rename_i was
        cases hstep
        have hreported := deliver_result chromium h true (.string "found")
        exact .resolved reason _ was
          ⟨hreported.callback, hreported.timeoutTimer, hreported.reported⟩
      · rename_i was
        cases hstep
        have hreported := deliver_result chromium h false reason
        exact .rejected reason _ was
          ⟨hreported.callback, hreported.timeoutTimer, hreported.reported⟩
      · cases hstep
  | timer =>
      simp only [step] at hstep
      split at hstep
      · rename_i htimer
        cases hstep
        have harmed : armed = true := h.timeoutTimer.symm.trans htimer
        subst harmed
        exact .expired _ (deliver_timeout chromium h)
      · cases hstep

/-- The answers that come after the first are dropped. -/
theorem step_reported (h : w.Reported status) (hstep : w.step chromium event = some next) :
    next.Reported status := by
  cases event with
  | check document elapsed =>
      simp only [step] at hstep
      split at hstep
      · cases hstep
        exact ⟨h.callback, h.timeoutTimer, h.reported⟩
      · cases hstep
        exact ⟨h.callback, h.timeoutTimer, h.reported⟩
      · cases hstep
  | settled reason =>
      simp only [step, deliver_reported chromium h] at hstep
      split at hstep
      · cases hstep
        exact ⟨h.callback, h.timeoutTimer, h.reported⟩
      · cases hstep
        exact ⟨h.callback, h.timeoutTimer, h.reported⟩
      · cases hstep
  | timer =>
      simp [step, h.timeoutTimer] at hstep

theorem run_reported {t : PendingWait} {events : List WaitEvent} (h : w.Reported status)
    (hrun : Exec (Step (step chromium)) w events t) : t.Reported status :=
  hrun.invariant (I := Reported status) (fun _ _ _ hs hstep => step_reported chromium hs hstep) h

/-- What a run does to a wait whose callback has not run and which finds nothing. -/
inductive RunOutcome (armed : Bool) (events : List WaitEvent) (t : PendingWait) : Prop
  | waiting (first : events.find? WaitEvent.answers = none) (waiting : t.Waiting armed)
  | rejected (reason : Value)
      (first : events.find? WaitEvent.answers = some (.settled reason))
      (reported : t.Reported (waitStatus (evaluationResult chromium (.result false reason))))
  | expired (first : events.find? WaitEvent.answers = some .timer)
      (reported : t.Reported (.error .timeout "JavaScript evaluation timeout"))

theorem run_notFound {t : PendingWait} {events : List WaitEvent}
    (hrun : Exec (Step (step chromium)) w events t) (h : w.Waiting armed)
    (hpromise : w.promise ≠ .resolved)
    (hnever : ∀ event ∈ events, ¬ event.Finds w.script.awaited) :
    RunOutcome chromium armed events t := by
  induction hrun with
  | nil w => exact .waiting rfl h
  | @cons w next t event events head tail ih =>
      have hhead := hnever event (by simp)
      have htail : ∀ event ∈ events, ¬ event.Finds w.script.awaited :=
        fun event hmem => hnever event (by simp [hmem])
      cases step_waiting chromium h head with
      | checked document elapsed isFirst next waiting script promise =>
          have hunresolved : next.promise ≠ .resolved := by
            intro hresolved
            rw [promise] at hresolved
            exact hhead (WaitScript.isFound_of_check_resolved hresolved)
          rw [← script] at htail
          cases ih waiting hunresolved htail with
          | waiting first waiting => exact .waiting first waiting
          | rejected reason first reported => exact .rejected reason first reported
          | expired first reported => exact .expired first reported
      | resolved reason next was reported => exact absurd was hpromise
      | rejected reason next was reported =>
          exact .rejected reason rfl (run_reported chromium reported tail)
      | expired next reported => exact .expired rfl (run_reported chromium reported tail)

/-- A wait reports at most once, and before it does its timer runs. -/
theorem run_once {t : PendingWait} {events : List WaitEvent}
    (hrun : Exec (Step (step chromium)) w events t) (h : w.Waiting armed) :
    t.Waiting armed ∨ ∃ status, t.Reported status := by
  refine hrun.invariant (I := fun w => w.Waiting armed ∨ ∃ status, w.Reported status) ?_ (.inl h)
  intro s event s' hs hstep
  rcases hs with hwaiting | ⟨status, hreported⟩
  · cases step_waiting chromium hwaiting hstep with
    | checked document elapsed isFirst next waiting script promise => exact .inl waiting
    | resolved reason next was reported => exact .inr ⟨_, reported⟩
    | rejected reason next was reported => exact .inr ⟨_, reported⟩
    | expired next reported => exact .inr ⟨_, reported⟩
  · exact .inr ⟨status, step_reported chromium hreported hstep⟩

end PendingWait

namespace BrowserController

variable {ρ : Type} [BrowserRuntime ρ] {rt : ρ} {targetId : Option String} {options : WaitOptions}
  {view : TabView} {awaited : Awaited} {start : PendingWait}

theorem waitFor_waiting (hframe : view.hasMainFrame = true ∧ view.mainFrameLive = true)
    (hawaited : options.awaited = some awaited)
    (hstart : waitFor rt targetId options view = .ok start) :
    start.Waiting (decide (0 < options.nativeTimeout.toInt)) ∧ start.promise = .created ∧
      start.script = ⟨awaited, options.timeout⟩ := by
  have hrequest (timeout : Int) : JavaScriptEvaluationRequest.start (some view) timeout =
      (⟨true, decide (0 < timeout), []⟩, none) := by
    simp [JavaScriptEvaluationRequest.start, hframe]
  simp only [waitFor, hawaited, hrequest] at hstart
  generalize options.nativeTimeout.toInt = deadline at hstart ⊢
  split at hstart
  · cases hstart
  · cases hstart
    exact ⟨⟨rfl, rfl, rfl⟩, rfl, rfl⟩

end BrowserController

open BrowserController PendingWait in
/-- A wait reports once, and success only if a check has found what is awaited. One that finds
nothing reports a timeout exactly when its timer expires before a rejection is passed on. -/
theorem waitFor_timesOut_iff (chromium : Chromium) {ρ : Type} [BrowserRuntime ρ] {rt : ρ}
    {targetId : Option String} {options : WaitOptions} {view : TabView} {awaited : Awaited}
    {start t : PendingWait} {events : List WaitEvent}
    (hframe : view.hasMainFrame = true ∧ view.mainFrameLive = true)
    (hawaited : options.awaited = some awaited)
    (hstart : waitFor rt targetId options view = .ok start)
    (hrun : Exec (Step (step chromium)) start events t) :
    t.reported.length ≤ 1 ∧
      ((∃ status ∈ t.reported, status.isOk = true) → ∃ event ∈ events, event.Finds awaited) ∧
      (t.reported = [] → options.timeoutMs.toInt + 1000 < 2 ^ 31 →
        (t.step chromium .timer).isSome = true) ∧
      ((∀ event ∈ events, ¬ event.Finds awaited) → t.Ended →
        (t.reported.map BrowserStatus.code = [.timeout] ↔
          events.find? WaitEvent.answers = some .timer)) := by
  obtain ⟨hwaiting, hcreated, hscript⟩ := waitFor_waiting hframe hawaited hstart
  have honce := run_once chromium hrun hwaiting
  have hnotFound : (∀ event ∈ events, ¬ event.Finds awaited) →
      RunOutcome chromium (decide (0 < options.nativeTimeout.toInt)) events t := by
    intro hnever
    apply run_notFound chromium hrun hwaiting
    · simp [hcreated]
    · simpa [hscript] using hnever
  refine ⟨?_, ?_, ?_, ?_⟩
  · rcases honce with hwaiting | ⟨status, hreported⟩
    · simp [hwaiting.reported]
    · simp [hreported.reported]
  · intro hok
    by_contra hnever
    push Not at hnever
    obtain ⟨status, hmem, hisOk⟩ := hok
    cases hnotFound hnever with
    | waiting first waiting => simp [waiting.reported] at hmem
    | rejected reason first reported =>
        rw [reported.reported, List.mem_singleton] at hmem
        subst hmem
        cases hisOk
    | expired first reported =>
        rw [reported.reported, List.mem_singleton] at hmem
        subst hmem
        cases hisOk
  · intro hreported htimeout
    rcases honce with hwaiting | ⟨status, hdone⟩
    · have harmed : t.request.timeoutTimer = true := by
        rw [hwaiting.timeoutTimer, decide_eq_true_eq, options.nativeTimeout_pos_iff]
        exact htimeout
      simp [step, harmed]
    · rw [hdone.reported] at hreported
      cases hreported
  · intro hnever hended
    cases hnotFound hnever with
    | waiting first waiting => simp [waiting.reported, first]
    | rejected reason first reported =>
        have hcode := waitStatus_rejected_code chromium reason
        simp [reported.reported, first, hcode]
    | expired first reported =>
        rw [reported.reported, first]
        simp [BrowserStatus.error]

def doneSelector : WaitOptions := ⟨some "#done", none, 100⟩

def emptyPage : WaitDocument := ⟨fun _ => some false, some ""⟩

/-- The checks find nothing, and the second rejects the promise. -/
def rejectedChecks : List WaitEvent := [.check emptyPage 0, .check emptyPage 101]

def shopTimeout : Value := .string "Error: timeout"

def shopWait : PendingWait :=
  ⟨⟨.selector "#done", 100⟩, .created, ⟨true, true, []⟩, []⟩

open BrowserController PendingWait in
/-- A wait that has timed out in the page reports an internal error. -/
theorem waitFor_rejection_not_timeout :
    waitFor shopRuntime none doneSelector Interaction.shopView = .ok shopWait ∧
      ¬ ∀ (events : List WaitEvent) (t : PendingWait),
        Exec (Step (step shopChromium)) shopWait events t →
          (∀ event ∈ events, ¬ event.Finds (.selector "#done")) → t.Ended →
            t.reported.map BrowserStatus.code = [.timeout] := by
  refine ⟨rfl, ?_⟩
  intro h
  obtain ⟨t, hrun, hreported⟩ :
      ∃ t, Exec (Step (step shopChromium)) shopWait (rejectedChecks ++ [.settled shopTimeout]) t ∧
        (t.reported.map BrowserStatus.code, t.request.callback) = ([.internalError], false) :=
    Exec.exists_of_foldlM rfl
  obtain ⟨hcodes, hcallback⟩ := Prod.mk.inj hreported
  have hnever : ∀ event ∈ rejectedChecks ++ [.settled shopTimeout],
      ¬ event.Finds (.selector "#done") := by
    simp [rejectedChecks, WaitEvent.Finds, Awaited.isFound, emptyPage]
  have htimeout := h _ t hrun hnever (.inl hcallback)
  rw [hcodes] at htimeout
  cases htimeout

open BrowserController PendingWait in
theorem waitFor_timesOut_sample :
    ∃ t, Exec (Step (step shopChromium)) shopWait (rejectedChecks ++ [.timer]) t ∧
      t.reported.map BrowserStatus.code = [.timeout] := by
  have hstart : waitFor shopRuntime none doneSelector Interaction.shopView = .ok shopWait := rfl
  obtain ⟨t, hrun, hcallback⟩ :
      ∃ t, Exec (Step (step shopChromium)) shopWait (rejectedChecks ++ [.timer]) t ∧
        t.request.callback = false :=
    Exec.exists_of_foldlM rfl
  obtain ⟨-, -, -, htimeout⟩ := waitFor_timesOut_iff shopChromium ⟨rfl, rfl⟩ rfl hstart hrun
  refine ⟨t, hrun, (htimeout ?_ (.inl hcallback)).mpr rfl⟩
  simp [rejectedChecks, WaitEvent.Finds, Awaited.isFound, emptyPage]

end Browserd
