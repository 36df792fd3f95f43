import Mathlib.Algebra.Group.Nat.Defs
import Mathlib.Data.List.Infix
import Browserd.Base.Strings
import Browserd.Core.BrowserController
import Browserd.Core.Keys
import Browserd.Core.MousePath

/-!
# Interactions with a page

The operations that act on a page in several steps: mouse, keyboard and scroll operations, and the
screenshot. Between two steps an operation is suspended on a delayed task or on an answer of
Chromium, and keeps the raw pointer to its tab.
-/

namespace Browserd

/-- What a step finds at the tab. -/
structure TabView where
  hasRenderView : Bool
  hasWidget : Bool
  hasMainFrame : Bool
  mainFrameLive : Bool

/-- The random numbers of one step; `chunk` is that of `RandInt(0, 40)`. -/
structure RandomDraws where
  double : Nat → Float
  chunk : Fin 41

/-- The scripts that operations run in the page. -/
inductive PageScript where
  | domClick (index : Int)
  | domHover (index : Int)
  | domType (index : Int) (text : String) (clear : Bool)
  | domDrag (startIndex endIndex : Int)
  | changeEvent
  | dragStart (point : BezierPoint)
  | dragEnd (point : BezierPoint)
  | canvasScreenshot

inductive AXAction where
  | scrollToMakeVisible
  | focus
  | setValue (value : String)

inductive MouseButtonType where
  | mouseDown
  | mouseUp

inductive KeyboardEventType where
  | rawKeyDown
  | char
  | keyUp

/-- `text` holds the first UTF-16 unit, which is zero unless it is set. -/
structure KeyboardEvent where
  type : KeyboardEventType
  modifiers : Modifiers
  windowsKeyCode : Int
  domKey : DomKey
  text : UInt16

/-- What an operation does through the pointer to its tab. -/
inductive TabAction where
  | getRenderWidgetHostView
  | getPrimaryMainFrame
  | accessibilityPerformAction (action : AXAction) (node : Int)
  | requestAXTreeSnapshot
  | forwardMouseMove (point : BezierPoint)
  | forwardMouseButton (type : MouseButtonType) (point : BezierPoint)
  | forwardKeyboardEvent (event : KeyboardEvent)
  | forwardWheelEvent (position : BezierPoint) (deltaX deltaY : Int)
  | executeJavaScript (script : PageScript)
  | getSnapshotFromBrowser

structure DevToolsEvaluationResult where
  isUndefined : Bool
  value : Value

/-- What is passed to the callback of an operation. -/
inductive OperationResult where
  | status (status : BrowserStatus)
  | screenshot (result : BrowserResult (List UInt8))

def OperationResult.isOk : OperationResult → Bool
  | .status s => s.isOk
  | .screenshot result => result.status.isOk

inductive InteractionEvent where
  | acted (action : TabAction)
  | tabDestroyed
  | reported (result : OperationResult)

/-- The `on_done` of `AnimateMousePath`. -/
inductive PathDone where
  | click (point : BezierPoint)
  | hover
  | dragStart (source target : BezierPoint)
  | dragEnd (target : BezierPoint)

/-- A posted task; a path or a text is what is left of it from the index on. -/
inductive DelayedTask where
  | animateMousePath (path : List BezierPoint) (onDone : PathDone)
  | mouseDown (point : BezierPoint)
  | mouseUp (point : BezierPoint)
  | dragPath (path : List BezierPoint) (target : BezierPoint)
  | typeNextChar (text : List UInt8)
  | typeKeyUp (mapping : KeyMapping) (rest : List UInt8)
  | pressKeyUp (mapping : KeyMapping)
  | scrollStep (deltaX deltaY remaining : Int)

/-- What an accessibility snapshot is requested for. -/
inductive SnapshotUse where
  | click (node : Int)
  | hover (node : Int)
  | drag (source target : Int)

/-- What an operation that has not reported waits for. The fallback of a screenshot waits for its
script with the snapshot still on its way. -/
inductive Suspension where
  | task (task : DelayedTask)
  | axSnapshot (use : SnapshotUse)
  | evalStatus
  | changeEvent
  | screenshot
  | screenshotFallback

/-- An operation under way; `mouse` is the mouse position that all operations share. -/
structure Interaction where
  mouse : BezierPoint
  waitingFor : Option Suspension
  log : List InteractionEvent

def noRenderView : BrowserStatus := .error .internalError "No render view"

def noActiveFrame : BrowserStatus := .error .noActiveFrame "No active frame"

def invalidRef : BrowserStatus := .error .invalidArgument "Invalid ref"

def parseRef (ref : String) : Option Int := stringToInt ref

def parseDomRef (ref : String) : Option Int :=
  if "dom:".toList <+: ref.toList then
    (stringToInt (String.ofList (ref.toList.drop 4))).filter (0 ≤ ·)
  else none

/-- What an evaluation answers: the script's result, or nothing before its timer expires. -/
inductive EvaluationOutcome where
  | result (isSuccess : Bool) (value : Value)
  | timeout

/-- `OnResult` and `OnTimeout` of a `JavaScriptEvaluationRequest`. -/
def evaluationResult (chromium : Chromium) :
    EvaluationOutcome → BrowserResult DevToolsEvaluationResult
  | .result isSuccess value =>
      if !isSuccess then
        let message :=
          match value with
          | .string s => s
          | value => chromium.writeJSON value
        .error .internalError message
      else
        match value with
        | .none => .ok ⟨true, .none⟩
        | value => .ok ⟨false, value⟩
  | .timeout => .error .timeout "JavaScript evaluation timeout"

/-- The texts by which a script says that it failed. -/
def mentionsError (s : String) : Bool :=
  decide ("Error".toList <:+: s.toList) || decide ("not found".toList <:+: s.toList)

/-- The callback of `EvalStatusJS`. -/
def evalStatus (result : BrowserResult DevToolsEvaluationResult) : BrowserStatus :=
  if !result.status.isOk then .error result.status.code result.status.message
  else
    match result.value with
    | some ⟨_, .string s⟩ =>
        if mentionsError s then .error .internalError s else .ok
    | _ => .ok

/-- The callback of the last evaluation of `TypeNextChar`. -/
def changeStatus (result : BrowserResult DevToolsEvaluationResult) : BrowserStatus :=
  if !result.status.isOk then .error result.status.code result.status.message else .ok

/-- What `GetSnapshotFromBrowser` gives back. -/
structure SnapshotImage where
  isEmpty : Bool
  drawsNothing : Bool
  png : Option (List UInt8)

def onSnapshotFromBrowser (image : SnapshotImage) : BrowserResult (List UInt8) :=
  if image.isEmpty then .error .screenshotFailed "Screenshot failed"
  else if image.drawsNothing then .error .screenshotFailed "Screenshot is empty"
  else
    match image.png with
    | none => .error .screenshotFailed "PNG encoding failed"
    | some png => .ok png

def pngDataUrlPrefix : String := "data:image/png;base64,"

def onDomFallback (chromium : Chromium) (result : BrowserResult DevToolsEvaluationResult) :
    BrowserResult (List UInt8) :=
  if !result.status.isOk then .error result.status.code result.status.message
  else
    match result.value with
    | some ⟨_, .string dataUrl⟩ =>
        if pngDataUrlPrefix.toList <+: dataUrl.toList then
          let data := String.ofList (dataUrl.toList.drop pngDataUrlPrefix.length)
          match chromium.base64Decode data with
          | none => .error .screenshotFailed "Screenshot fallback PNG decode failed"
          | some bytes =>
              if bytes.isEmpty then
                .error .screenshotFailed "Screenshot fallback PNG decode failed"
              else .ok bytes
        else .error .screenshotFailed "Screenshot fallback returned invalid data"
    | _ => .error .screenshotFailed "Screenshot fallback returned no data"

structure Bounds where
  x : Float
  y : Float
  width : Float
  height : Float

def Bounds.center (bounds : Bounds) : BezierPoint :=
  ⟨bounds.x + bounds.width / 2.0, bounds.y + bounds.height / 2.0⟩

structure AXNode where
  id : Int
  bounds : Bounds

namespace Interaction

def start (mouse : BezierPoint) : Interaction := ⟨mouse, none, []⟩

def record (event : InteractionEvent) (op : Interaction) : Interaction :=
  { op with log := op.log ++ [event] }

def act (action : TabAction) (op : Interaction) : Interaction := op.record (.acted action)

def suspend (suspension : Suspension) (op : Interaction) : Interaction :=
  { op with waitingFor := some suspension }

def report (result : OperationResult) (op : Interaction) : Interaction :=
  { op.record (.reported result) with waitingFor := none }

def reportStatus (status : BrowserStatus) (op : Interaction) : Interaction :=
  op.report (.status status)

@[simp] theorem record_log (event : InteractionEvent) (op : Interaction) :
    (op.record event).log = op.log ++ [event] := rfl

@[simp] theorem act_log (action : TabAction) (op : Interaction) :
    (op.act action).log = op.log ++ [.acted action] := rfl

@[simp] theorem report_log (result : OperationResult) (op : Interaction) :
    (op.report result).log = op.log ++ [.reported result] := rfl

/-- The steps that need a render view report an error without one. -/
def withRenderView (view : TabView) (next : Interaction → Interaction) (op : Interaction) :
    Interaction :=
  let op := op.act .getRenderWidgetHostView
  if !view.hasRenderView then op.reportStatus noRenderView else next op

/-- `EvaluateWithDevTools` answers in the same stack when the tab has no live frame. -/
def evaluateWithDevTools (view : TabView) (script : PageScript) (op : Interaction) :
    Interaction × Option (BrowserResult DevToolsEvaluationResult) :=
  let op := op.act .getPrimaryMainFrame
  if !view.hasMainFrame || !view.mainFrameLive then
    (op, some (.error .noActiveFrame "No active frame"))
  else (op.act (.executeJavaScript script), none)

def evalStatusJS (view : TabView) (script : PageScript) (op : Interaction) : Interaction :=
  match op.evaluateWithDevTools view script with
  | (op, some result) => op.reportStatus (evalStatus result)
  | (op, none) => op.suspend .evalStatus

def forwardMouseMove (point : BezierPoint) (op : Interaction) : Interaction :=
  { op.act (.forwardMouseMove point) with mouse := point }

def forwardMouseButton (type : MouseButtonType) (point : BezierPoint) (op : Interaction) :
    Interaction :=
  op.act (.forwardMouseButton type point)

def runPathDone (view : TabView) (random : RandomDraws) (onDone : PathDone) (op : Interaction) :
    Interaction :=
  match onDone with
  | .click point => op.withRenderView view fun op => op.suspend (.task (.mouseDown point))
  | .hover => op.reportStatus .ok
  | .dragStart source target =>
      op.withRenderView view fun op =>
        let op := op.forwardMouseButton .mouseDown source
        -- Nothing waits for the answer of the script.
        let (op, _) := op.evaluateWithDevTools view (.dragStart source)
        op.suspend (.task (.dragPath (generateMousePath random.double source target) target))
  | .dragEnd target =>
      op.withRenderView view fun op =>
        let op := op.forwardMouseButton .mouseUp target
        let (op, _) := op.evaluateWithDevTools view (.dragEnd target)
        op.reportStatus .ok

def animateMousePath (view : TabView) (random : RandomDraws) (path : List BezierPoint)
    (onDone : PathDone) (op : Interaction) : Interaction :=
  match path with
  | [] => op.runPathDone view random onDone
  | point :: rest =>
      let op := op.act .getRenderWidgetHostView
      if !view.hasRenderView then op.runPathDone view random onDone
      else (op.forwardMouseMove point).suspend (.task (.animateMousePath rest onDone))

def typeNextChar (view : TabView) (text : List UInt8) (op : Interaction) : Interaction :=
  match text with
  | [] =>
      match op.evaluateWithDevTools view .changeEvent with
      | (op, some result) => op.reportStatus (changeStatus result)
      | (op, none) => op.suspend .changeEvent
  | c :: rest =>
      op.withRenderView view fun op =>
        let mapping := mapCharacter c
        let op := op.act (.forwardKeyboardEvent
          ⟨.rawKeyDown, mapping.modifiers, mapping.windowsKeyCode, mapping.domKey, 0⟩)
        let op := op.act (.forwardKeyboardEvent
          ⟨.char, mapping.modifiers, charValue c, mapping.domKey, UInt16.ofInt (charValue c)⟩)
        op.suspend (.task (.typeKeyUp mapping rest))

def keyUp (modifiers : Modifiers) (mapping : KeyMapping) (op : Interaction) : Interaction :=
  op.act (.forwardKeyboardEvent ⟨.keyUp, modifiers, mapping.windowsKeyCode, mapping.domKey, 0⟩)

/-- The sign of a delta that is not zero. -/
def scrollDelta (delta chunk : Int) : Int :=
  if delta ≠ 0 then (if delta > 0 then 1 else -1) * chunk else 0

def scrollStep (view : TabView) (random : RandomDraws) (deltaX deltaY remaining : Int)
    (op : Interaction) : Interaction :=
  if remaining ≤ 0 then op.reportStatus .ok
  else
    op.withRenderView view fun op =>
      let chunk := min remaining (40 + random.chunk)
      let op := op.act (.forwardWheelEvent op.mouse (-scrollDelta deltaX chunk)
        (-scrollDelta deltaY chunk))
      op.suspend (.task (.scrollStep deltaX deltaY (remaining - chunk)))

def runTask (view : TabView) (random : RandomDraws) (task : DelayedTask) (op : Interaction) :
    Interaction :=
  match task with
  | .animateMousePath path onDone => op.animateMousePath view random path onDone
  | .mouseDown point =>
      op.withRenderView view fun op =>
        (op.forwardMouseButton .mouseDown point).suspend (.task (.mouseUp point))
  | .mouseUp point =>
      op.withRenderView view fun op =>
        (op.forwardMouseButton .mouseUp point).reportStatus .ok
  | .dragPath path target => op.animateMousePath view random path (.dragEnd target)
  | .typeNextChar text => op.typeNextChar view text
  | .typeKeyUp mapping rest =>
      op.withRenderView view fun op =>
        (op.keyUp mapping.modifiers mapping).suspend (.task (.typeNextChar rest))
  | .pressKeyUp mapping =>
      op.withRenderView view fun op =>
        (op.keyUp .noModifiers mapping).reportStatus .ok
  | .scrollStep deltaX deltaY remaining => op.scrollStep view random deltaX deltaY remaining

/-- The random point in the middle of a node at which it is clicked. -/
def clickPoint (random : RandomDraws) (bounds : Bounds) : BezierPoint :=
  ⟨bounds.center.x + (random.double 0 - 0.5) * bounds.width * 0.3,
    bounds.center.y + (random.double 1 - 0.5) * bounds.height * 0.3⟩

/-- The bounds of the first node with this id. -/
def nodeBounds (nodes : List AXNode) (id : Int) : Option Bounds :=
  (nodes.find? fun node => node.id == id).map AXNode.bounds

/-- The loop of `Drag`, which ends as soon as both nodes have been found. -/
def dragBounds (source target : Int) :
    List AXNode → Option Bounds → Option Bounds → Option (Bounds × Bounds)
  | [], _, _ => none
  | node :: rest, startBounds, endBounds =>
      let startBounds := if node.id == source then some node.bounds else startBounds
      let endBounds := if node.id == target then some node.bounds else endBounds
      match startBounds, endBounds with
      | some startBounds, some endBounds => some (startBounds, endBounds)
      | _, _ => dragBounds source target rest startBounds endBounds

def onAXTreeSnapshot (view : TabView) (random : RandomDraws) (nodes : List AXNode)
    (use : SnapshotUse) (op : Interaction) : Interaction :=
  match use with
  | .click node =>
      match nodeBounds nodes node with
      | none => op.reportStatus (.error .notFound "Element not found")
      | some bounds =>
          let point := clickPoint random bounds
          let path := generateMousePath (fun n => random.double (n + 2)) op.mouse point
          op.animateMousePath view random path (.click point)
  | .hover node =>
      match nodeBounds nodes node with
      | none => op.reportStatus (.error .notFound "Element not found")
      | some bounds =>
          let path := generateMousePath random.double op.mouse bounds.center
          op.animateMousePath view random path .hover
  | .drag source target =>
      match dragBounds source target nodes none none with
      | none => op.reportStatus (.error .notFound "Element not found for drag")
      | some (startBounds, endBounds) =>
          let path := generateMousePath random.double op.mouse startBounds.center
          op.animateMousePath view random path (.dragStart startBounds.center endBounds.center)

def startDomFallback (chromium : Chromium) (view : TabView) (op : Interaction) : Interaction :=
  match op.evaluateWithDevTools view .canvasScreenshot with
  | (op, some result) => op.report (.screenshot (onDomFallback chromium result))
  | (op, none) => op.suspend .screenshotFallback

end Interaction

namespace BrowserController

variable {ρ : Type} [BrowserRuntime ρ]

/-- The operations resolve their tab first. -/
def onTab (rt : ρ) (targetId : Option String) (body : Interaction → Interaction)
    (op : Interaction) : Interaction :=
  match resolveWebContents rt targetId with
  | none => op.reportStatus (tabNotFound targetId)
  | some _ => body op

/-- An accessibility action on a node of the primary main frame. -/
def performAction (view : TabView) (actions : List AXAction) (node : Int)
    (next : Interaction → Interaction) (op : Interaction) : Interaction :=
  let op := op.act .getPrimaryMainFrame
  if !view.hasMainFrame then op.reportStatus noActiveFrame
  else
    next (actions.foldl (fun op action => op.act (.accessibilityPerformAction action node)) op)

def requestAXTreeSnapshot (use : SnapshotUse) (op : Interaction) : Interaction :=
  (op.act .requestAXTreeSnapshot).suspend (.axSnapshot use)

def click (rt : ρ) (targetId : Option String) (ref : String) (view : TabView) :
    Interaction → Interaction :=
  onTab rt targetId fun op =>
    match parseDomRef ref with
    | some index => op.evalStatusJS view (.domClick index)
    | none =>
        match parseRef ref with
        | none => op.reportStatus invalidRef
        | some node =>
            performAction view [.scrollToMakeVisible] node (requestAXTreeSnapshot (.click node)) op

def hover (rt : ρ) (targetId : Option String) (ref : String) (view : TabView) :
    Interaction → Interaction :=
  onTab rt targetId fun op =>
    match parseDomRef ref with
    | some index => op.evalStatusJS view (.domHover index)
    | none =>
        match parseRef ref with
        | none => op.reportStatus invalidRef
        | some node =>
            performAction view [.scrollToMakeVisible] node (requestAXTreeSnapshot (.hover node)) op

def type (rt : ρ) (targetId : Option String) (ref text : String) (clear : Bool)
    (view : TabView) : Interaction → Interaction :=
  onTab rt targetId fun op =>
    match parseDomRef ref with
    | some index => op.evalStatusJS view (.domType index text clear)
    | none =>
        match parseRef ref with
        | none => op.reportStatus invalidRef
        | some node =>
            performAction view ([.focus] ++ if clear then [.setValue ""] else []) node
              (fun op => op.suspend (.task (.typeNextChar text.toUTF8.toList))) op

def pressKey (rt : ρ) (targetId : Option String) (key : String) (view : TabView) :
    Interaction → Interaction :=
  onTab rt targetId fun op =>
    op.withRenderView view fun op =>
      let mapping := mapKey key
      let op := op.act (.forwardKeyboardEvent
        ⟨.rawKeyDown, .noModifiers, mapping.windowsKeyCode, mapping.domKey, 0⟩)
      op.suspend (.task (.pressKeyUp mapping))

def drag (rt : ρ) (targetId : Option String) (startRef endRef : String) (view : TabView) :
    Interaction → Interaction :=
  onTab rt targetId fun op =>
    match parseDomRef startRef, parseDomRef endRef with
    | some startIndex, some endIndex => op.evalStatusJS view (.domDrag startIndex endIndex)
    | none, none =>
        match parseRef startRef, parseRef endRef with
        | some source, some target => requestAXTreeSnapshot (.drag source target) op
        | _, _ => op.reportStatus invalidRef
    | _, _ => op.reportStatus invalidRef

/-- `std::abs` is taken in the integers. -/
def scroll (rt : ρ) (targetId : Option String) (deltaX deltaY : Int32) (view : TabView)
    (random : RandomDraws) : Interaction → Interaction :=
  onTab rt targetId fun op =>
    let total : Int := max deltaX.toInt.natAbs deltaY.toInt.natAbs
    if total = 0 then op.reportStatus .ok
    else op.scrollStep view random deltaX.toInt deltaY.toInt total

/-- A screenshot of a tab that cannot be resolved reports the same status as the others. -/
def screenshot (rt : ρ) (targetId : Option String) (view : TabView) (op : Interaction) :
    Interaction :=
  match resolveWebContents rt targetId with
  | none => op.report (.screenshot (.error .tabNotFound (tabNotFound targetId).message))
  | some _ =>
      let op := op.act .getRenderWidgetHostView
      if !view.hasRenderView then
        op.report (.screenshot (.error .screenshotFailed "No render view available"))
      else if !view.hasWidget then
        op.report (.screenshot (.error .screenshotFailed "No render widget available"))
      else (op.act .getSnapshotFromBrowser).suspend .screenshot

end BrowserController

end Browserd
