import Browserd.Core.ControllerCalls
import Browserd.Embed.Session

/-!
# The calls of a session

What the `browserd_*` operations read of their arguments, ask of the controller and pass to their
callbacks. A string is `none` where its pointer is null; an options struct has the size that the
host wrote into it, which is compared with its size on a 64-bit platform.
-/

namespace Browserd

structure BrowserdRefOptions where
  size : Nat
  ref : Option String

structure BrowserdTypeOptions where
  size : Nat
  ref : Option String
  text : Option String
  clear : Bool

structure BrowserdKeyOptions where
  size : Nat
  key : Option String

/-- `values` is the array, which has `valuesLen` entries if it is there. -/
structure BrowserdSelectOptions where
  size : Nat
  ref : Option String
  values : Option (List (Option String))
  valuesLen : Nat
  values_length : ∀ array, values = some array → array.length = valuesLen

structure BrowserdDragOptions where
  size : Nat
  startRef : Option String
  endRef : Option String

structure BrowserdScrollOptions where
  size : Nat
  deltaX : Int32
  deltaY : Int32

structure BrowserdWaitOptions where
  size : Nat
  selector : Option String
  text : Option String
  timeoutMs : Int32

structure BrowserdCookieListOptions where
  size : Nat
  url : Option String

structure BrowserdCookieGetOptions where
  size : Nat
  name : Option String

structure BrowserdCookieSetOptions where
  size : Nat
  name : Option String
  value : Option String
  domain : Option String
  path : Option String
  url : Option String
  secure : Bool
  httpOnly : Bool

structure BrowserdCookieDeleteOptions where
  size : Nat
  name : Option String
  url : Option String
  domain : Option String

/-- A call of a `browserd_*` operation, but for the session and the callback. -/
inductive BrowserdCall where
  | tabList
  | tabNew (url : Option String)
  | tabClose (targetId : Option String)
  | resize (width height : Int32)
  | navigate (targetId url : Option String)
  | navigateBack (targetId : Option String)
  | navigateForward (targetId : Option String)
  | reload (targetId : Option String)
  | evaluate (targetId expression : Option String)
  | consoleMessages (targetId : Option String)
  | snapshot (targetId : Option String)
  | screenshot (targetId : Option String)
  | waitFor (targetId : Option String) (options : Option BrowserdWaitOptions)
  | click (targetId : Option String) (options : Option BrowserdRefOptions)
  | hover (targetId : Option String) (options : Option BrowserdRefOptions)
  | type (targetId : Option String) (options : Option BrowserdTypeOptions)
  | pressKey (targetId : Option String) (options : Option BrowserdKeyOptions)
  | selectOption (targetId : Option String) (options : Option BrowserdSelectOptions)
  | drag (targetId : Option String) (options : Option BrowserdDragOptions)
  | scroll (targetId : Option String) (options : Option BrowserdScrollOptions)
  | cookieList (targetId : Option String) (options : Option BrowserdCookieListOptions)
  | cookieGet (targetId : Option String) (options : Option BrowserdCookieGetOptions)
  | cookieSet (targetId : Option String) (options : Option BrowserdCookieSetOptions)
  | cookieDelete (targetId : Option String) (options : Option BrowserdCookieDeleteOptions)
  | cookieClear (targetId : Option String)

/-- What a task of a session asks of the controller. -/
inductive ControllerCall where
  | listTabs
  | createTab (url : String)
  | closeTab (targetId : Option String)
  | resizeActive (width height : Int32)
  | navigate (targetId : Option String) (url : String)
  | navigateBack (targetId : Option String)
  | navigateForward (targetId : Option String)
  | reload (targetId : Option String)
  | inTab (targetId : Option String) (call : PageCall)

namespace BrowserdCall

/-- An empty string is none. -/
def optionalString (value : Option String) : Option String := value.filter fun s => !s.isEmpty

/-- Options that are there and have all fields of the struct. -/
def sized {α : Type} (size : α → Nat) (sizeof : Nat) (options : Option α) : Option α :=
  options.filter fun options => decide (sizeof ≤ size options)

/-- The values to select; none of them may be null. -/
def selectedValues (options : BrowserdSelectOptions) : Option (List String) :=
  if options.values.isNone && decide (0 < options.valuesLen) then none
  else (options.values.getD []).mapM id

/-- A call with arguments that are not in order asks for nothing. -/
def controllerCall : BrowserdCall → Option ControllerCall
  | tabList => some .listTabs
  | tabNew url => some (.createTab (url.getD "about:blank"))
  | tabClose targetId => some (.closeTab (optionalString targetId))
  | resize width height => some (.resizeActive width height)
  | navigate targetId url => url.map fun url => .navigate (optionalString targetId) url
  | navigateBack targetId => some (.navigateBack (optionalString targetId))
  | navigateForward targetId => some (.navigateForward (optionalString targetId))
  | reload targetId => some (.reload (optionalString targetId))
  | evaluate targetId expression =>
      expression.map fun expression => .inTab (optionalString targetId) (.evaluate expression)
  | consoleMessages targetId => some (.inTab (optionalString targetId) .consoleMessages)
  | snapshot targetId => some (.inTab (optionalString targetId) .snapshot)
  | screenshot targetId => some (.inTab (optionalString targetId) (.interact .screenshot))
  | waitFor targetId options => do
      let options ← sized BrowserdWaitOptions.size 32 options
      some (.inTab (optionalString targetId)
        (.waitFor ⟨optionalString options.selector, optionalString options.text,
          options.timeoutMs⟩))
  | click targetId options => do
      let options ← sized BrowserdRefOptions.size 16 options
      let ref ← options.ref
      some (.inTab (optionalString targetId) (.interact (.click ref)))
  | hover targetId options => do
      let options ← sized BrowserdRefOptions.size 16 options
      let ref ← options.ref
      some (.inTab (optionalString targetId) (.interact (.hover ref)))
  | type targetId options => do
      let options ← sized BrowserdTypeOptions.size 32 options
      let ref ← options.ref
      let text ← options.text
      some (.inTab (optionalString targetId) (.interact (.type ref text options.clear)))
  | pressKey targetId options => do
      let options ← sized BrowserdKeyOptions.size 16 options
      let key ← options.key
      some (.inTab (optionalString targetId) (.interact (.pressKey key)))
  | selectOption targetId options => do
      let options ← sized BrowserdSelectOptions.size 32 options
      let ref ← options.ref
      let values ← selectedValues options
      some (.inTab (optionalString targetId) (.selectOption ref values))
  | drag targetId options => do
      let options ← sized BrowserdDragOptions.size 24 options
      let startRef ← options.startRef
      let endRef ← options.endRef
      some (.inTab (optionalString targetId) (.interact (.drag startRef endRef)))
  | scroll targetId options => do
      let options ← sized BrowserdScrollOptions.size 12 options
      some (.inTab (optionalString targetId) (.interact (.scroll options.deltaX options.deltaY)))
  | cookieList targetId none => some (.inTab (optionalString targetId) (.listCookies ⟨none⟩))
  | cookieList targetId (some options) => do
      let options ← sized BrowserdCookieListOptions.size 16 options
      some (.inTab (optionalString targetId) (.listCookies ⟨optionalString options.url⟩))
  | cookieGet targetId options => do
      let options ← sized BrowserdCookieGetOptions.size 16 options
      let name ← options.name
      some (.inTab (optionalString targetId) (.getCookie ⟨name⟩))
  | cookieSet targetId options => do
      let options ← sized BrowserdCookieSetOptions.size 56 options
      let name ← options.name
      let value ← options.value
      some (.inTab (optionalString targetId) (.setCookie
        { name := name
          value := value
          domain := optionalString options.domain
          path := optionalString options.path
          url := optionalString options.url
          secure := options.secure
          httpOnly := options.httpOnly }))
  | cookieDelete targetId options => do
      let options ← sized BrowserdCookieDeleteOptions.size 32 options
      let name ← options.name
      some (.inTab (optionalString targetId)
        (.deleteCookie ⟨name, optionalString options.url, optionalString options.domain⟩))
  | cookieClear targetId => some (.inTab (optionalString targetId) .clearCookies)

def operation : BrowserdCall → EmbedOperation
  | tabList => .tabList
  | tabNew _ => .tabNew
  | tabClose _ => .tabClose
  | resize _ _ => .resize
  | navigate _ _ => .navigate
  | navigateBack _ => .navigateBack
  | navigateForward _ => .navigateForward
  | reload _ => .reload
  | evaluate _ _ => .evaluate
  | consoleMessages _ => .consoleMessages
  | snapshot _ => .snapshot
  | screenshot _ => .screenshot
  | waitFor _ _ => .waitFor
  | click _ _ => .click
  | hover _ _ => .hover
  | type _ _ => .type
  | pressKey _ _ => .pressKey
  | selectOption _ _ => .selectOption
  | drag _ _ => .drag
  | scroll _ _ => .scroll
  | cookieList _ _ => .cookieList
  | cookieGet _ _ => .cookieGet
  | cookieSet _ _ => .cookieSet
  | cookieDelete _ _ => .cookieDelete
  | cookieClear _ => .cookieClear

end BrowserdCall

/-- The operation of the C API that makes a call. -/
def ControllerCall.operation : ControllerCall → EmbedOperation
  | .listTabs => .tabList
  | .createTab _ => .tabNew
  | .closeTab _ => .tabClose
  | .resizeActive _ _ => .resize
  | .navigate _ _ => .navigate
  | .navigateBack _ => .navigateBack
  | .navigateForward _ => .navigateForward
  | .reload _ => .reload
  | .inTab _ (.interact (.click _)) => .click
  | .inTab _ (.interact (.hover _)) => .hover
  | .inTab _ (.interact (.type _ _ _)) => .type
  | .inTab _ (.interact (.pressKey _)) => .pressKey
  | .inTab _ (.interact (.drag _ _)) => .drag
  | .inTab _ (.interact (.scroll _ _)) => .scroll
  | .inTab _ (.interact .screenshot) => .screenshot
  | .inTab _ (.evaluate _) => .evaluate
  | .inTab _ .consoleMessages => .consoleMessages
  | .inTab _ .snapshot => .snapshot
  | .inTab _ (.waitFor _) => .waitFor
  | .inTab _ (.selectOption _ _) => .selectOption
  | .inTab _ (.listCookies _) => .cookieList
  | .inTab _ (.getCookie _) => .cookieGet
  | .inTab _ (.setCookie _) => .cookieSet
  | .inTab _ (.deleteCookie _) => .cookieDelete
  | .inTab _ .clearCookies => .cookieClear

/-- `browserd_status_t`. -/
structure BrowserdStatus where
  code : Nat
  message : String

/-- What a callback of the host is given besides the session and its own data; a pointer is `none`
where it is null. -/
inductive CallbackArguments where
  | status (status : BrowserdStatus)
  | string (status : BrowserdStatus) (value : String)
  | bytes (status : BrowserdStatus) (value : List UInt8)
  | tab (status : BrowserdStatus) (tab : Option BrowserTabInfo)
  | tabs (status : BrowserdStatus) (tabs : Option (List BrowserTabInfo))
  | cookie (status : BrowserdStatus) (cookie : Option CookieInfo)
  | cookies (status : BrowserdStatus) (cookies : Option (List CookieInfo))

def toCStatusCode : BrowserStatusCode → Nat
  | .ok => 0
  | .invalidArgument => 1
  | .sessionNotReady => 2
  | .tabNotFound => 3
  | .noActiveFrame => 4
  | .navigationFailed => 5
  | .screenshotFailed => 6
  | .internalError => 7
  | .timeout => 8
  | .notFound => 9

def toCStatus (status : BrowserStatus) : BrowserdStatus :=
  ⟨toCStatusCode status.code, status.message⟩

namespace ControllerResult

/-- The text of an evaluation that has a result. -/
def evaluateText : EvaluateResult → String
  | .undefined => "undefined"
  | .json json => json

/-- A callback reads the value of a result that is OK; where there is none, the process crashes. -/
def completeWith {α : Type} (failed : BrowserdStatus → CallbackArguments)
    (read : α → CallbackArguments) (result : BrowserResult α) : Option CallbackArguments :=
  if !result.status.isOk then some (failed (toCStatus result.status)) else result.value.map read

/-- `CompleteStatus`, `CompleteEvaluate`, `CompleteString`, `CompleteBytes`, `CompleteTab`,
`CompleteTabs`, `CompleteCookie` and `CompleteCookies`. -/
def complete : ControllerResult → Option CallbackArguments
  | .status s => some (.status (toCStatus s))
  | .evaluate result =>
      completeWith (.string · "") (fun value => .string (toCStatus .ok) (evaluateText value)) result
  | .text result => completeWith (.string · "") (.string (toCStatus .ok)) result
  | .screenshot result => completeWith (.bytes · []) (.bytes (toCStatus .ok)) result
  | .tab result => completeWith (.tab · none) (fun tab => .tab (toCStatus .ok) (some tab)) result
  | .tabs result =>
      completeWith (.tabs · none) (fun tabs => .tabs (toCStatus .ok) (some tabs)) result
  | .cookie result =>
      completeWith (.cookie · none) (fun cookie => .cookie (toCStatus .ok) (some cookie)) result
  | .cookies result =>
      completeWith (.cookies · none) (fun cookies => .cookies (toCStatus .ok) (some cookies)) result

end ControllerResult

namespace CallbackArguments

/-- The value is there exactly if the code is that of success, and empty where it cannot be null. -/
def Proper : CallbackArguments → Prop
  | .status _ => True
  | .string s value => s.code ≠ 0 → value = ""
  | .bytes s value => s.code ≠ 0 → value = []
  | .tab s value => value.isSome = decide (s.code = 0)
  | .tabs s value => value.isSome = decide (s.code = 0)
  | .cookie s value => value.isSome = decide (s.code = 0)
  | .cookies s value => value.isSome = decide (s.code = 0)

end CallbackArguments

theorem toCStatusCode_eq_zero_iff (code : BrowserStatusCode) :
    toCStatusCode code = 0 ↔ code = .ok := by
  cases code <;> decide

namespace ControllerResult

theorem completeWith_proper {α : Type} {failed : BrowserdStatus → CallbackArguments}
    {read : α → CallbackArguments} {result : BrowserResult α} (h : result.Consistent)
    (hfailed : ∀ status : BrowserdStatus, status.code ≠ 0 → (failed status).Proper)
    (hread : ∀ value, (read value).Proper) :
    ∃ arguments, completeWith failed read result = some arguments ∧ arguments.Proper := by
  cases hok : result.status.isOk with
  | false =>
      refine ⟨_, by rw [completeWith, hok]; rfl, hfailed _ ?_⟩
      intro hzero
      have hcode := (toCStatusCode_eq_zero_iff result.status.code).mp hzero
      simp [BrowserStatus.isOk, hcode] at hok
  | true =>
      obtain ⟨value, hvalue⟩ := Option.isSome_iff_exists.mp (h.trans hok)
      exact ⟨read value, by rw [completeWith, hok, hvalue]; rfl, hread value⟩

/-- The callback of a result that is consistent does not crash. -/
theorem complete_proper {result : ControllerResult} (h : result.Consistent) :
    ∃ arguments, result.complete = some arguments ∧ arguments.Proper := by
  cases result with
  | status s => exact ⟨_, rfl, trivial⟩
  | tab result | tabs result | cookie result | cookies result =>
      rw [complete]
      apply completeWith_proper h
      · intro status hcode
        simp [CallbackArguments.Proper, hcode]
      · intro value
        rfl
  | _ =>
      rw [complete]
      apply completeWith_proper h
      · intro status _ _
        rfl
      · intro value hcode
        exact absurd rfl hcode

end ControllerResult

/-- The controller of a session, with its tabs. -/
structure ControllerState (ρ κ : Type) [BrowserRuntime ρ] extends PageState κ where
  runtime : ρ
  builder : BrowserRuntime.Builder ρ

/-- What has been started for a call that waits: a waiter, which may be for a new tab, or an
operation inside a tab. -/
inductive ControllerOperation where
  | waiter (waiter : Waiter) (createdTab : Option String)
  | page (operation : PageOperation)

inductive ControllerAnswer where
  | waiterEvent (event : WaiterEvent)
  | page (answer : PageAnswer)

inductive ControllerProgress where
  | completed (result : ControllerResult)
  | waits (operation : ControllerOperation)

def PageProgress.toControllerProgress : PageProgress → ControllerProgress
  | .completed result => .completed result
  | .waits operation => .waits (.page operation)

namespace ControllerCall

variable {ρ : Type} [BrowserRuntime ρ] {κ : Type}

/-- A call, in the task that makes it; the size of a tab is nothing that another call reads. -/
def start (chromium : PageChromium κ) (c : ControllerState ρ κ) :
    ControllerCall → ControllerState ρ κ × ControllerProgress
  | .listTabs => (c, .completed (.tabs (BrowserController.listTabs c.runtime)))
  | .createTab url =>
      let (runtime, started) :=
        BrowserController.createTab c.builder (chromium.parseURL url) c.runtime
      let c := { c with runtime := runtime }
      match started with
      | .reported result => (c, .completed (.tab result))
      | .waiting _ waiter targetId => (c, .waits (.waiter waiter (some targetId)))
  | .closeTab targetId =>
      let (runtime, status) := BrowserController.closeTab targetId c.runtime
      ({ c with runtime := runtime }, .completed (.status status))
  | .resizeActive _ _ => (c, .completed (.status .ok))
  | .navigate targetId url =>
      match BrowserController.navigate targetId (chromium.parseURL url) c.runtime with
      | .reported status => (c, .completed (.status status))
      | .waiting _ waiter _ => (c, .waits (.waiter waiter none))
  | .navigateBack targetId =>
      (c, .completed (.status (BrowserController.navigateBack targetId c.runtime)))
  | .navigateForward targetId =>
      (c, .completed (.status (BrowserController.navigateForward targetId c.runtime)))
  | .reload targetId =>
      match BrowserController.reload targetId c.runtime with
      | .reported status => (c, .completed (.status status))
      | .waiting _ waiter _ => (c, .waits (.waiter waiter none))
  | .inTab targetId call =>
      let (state, progress) :=
        BrowserController.startCall chromium c.runtime targetId c.toPageState call
      ({ c with toPageState := state }, progress.toControllerProgress)

end ControllerCall

namespace ControllerOperation

variable {ρ : Type} [BrowserRuntime ρ] {κ : Type}

/-- The callback of a new tab has a weak pointer to the controller. -/
def waiterResult (controller : Bool) (rt : ρ) (createdTab : Option String)
    (status : BrowserStatus) : ControllerResult :=
  match createdTab with
  | none => .status status
  | some targetId =>
      if status.isOk && !controller then
        .tab (.error .sessionNotReady "Browser session not ready")
      else .tab (BrowserController.createdTab targetId status rt)

def deliver (chromium : PageChromium κ) (controller : Bool) (c : ControllerState ρ κ) :
    ControllerOperation → ControllerAnswer → Option (ControllerState ρ κ × ControllerProgress)
  | .waiter w createdTab, .waiterEvent event =>
      match w.deliver chromium.toChromium event with
      | (w, none) => some (c, .waits (.waiter w createdTab))
      | (_, some status) =>
          some (c, .completed (waiterResult controller c.runtime createdTab status))
  | .page operation, .page answer =>
      (operation.deliver chromium c.toPageState answer).map fun (state, progress) =>
        ({ c with toPageState := state }, progress.toControllerProgress)
  | _, _ => none

end ControllerOperation

end Browserd
