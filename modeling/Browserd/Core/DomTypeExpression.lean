import Browserd.Base.UTF16
import Browserd.Core.Interactions

/-!
# The script that types

The script of `DomTypeExpression`, run on the element that a reference names, and the status that
`EvalStatusJS` makes of its outcome. The strings of the page are lists of UTF-16 units.
-/

namespace Browserd

/-- The states of the `type` attribute of an `input` element. -/
inductive InputType where
  | hidden
  | text
  | search
  | tel
  | url
  | email
  | password
  | date
  | month
  | week
  | time
  | datetimeLocal
  | number
  | range
  | color
  | checkbox
  | radio
  | file
  | submit
  | image
  | reset
  | button
  deriving DecidableEq

inductive TextControl where
  | input (type : InputType)
  | textarea
  deriving DecidableEq

namespace TextControl

def acceptsText : TextControl → Bool
  | textarea => true
  | input type => type ∈ [.text, .search, .url, .tel, .password, .email, .number]

/-- The controls that have a selection and a `setRangeText` that works. -/
def supportsSelection : TextControl → Bool
  | textarea => true
  | input type => type ∈ [.text, .search, .url, .tel, .password]

theorem acceptsText_of_supportsSelection {control : TextControl}
    (h : control.supportsSelection = true) : control.acceptsText = true := by
  cases control with
  | textarea => rfl
  | input type =>
      simp only [supportsSelection, acceptsText, decide_eq_true_eq] at h ⊢
      exact (List.prefix_append [InputType.text, .search, .url, .tel, .password] _).subset h

end TextControl

/-- An element of another namespace can have the tag of a control and none of its methods. -/
inductive ElementKind where
  | control (control : TextControl)
  | foreignControl
  | other (isContentEditable : Bool)
  deriving DecidableEq

inductive DomEvent where
  | input (data : List UInt16)
  | change
  deriving DecidableEq

/-- The selection of a control lies within its value. -/
structure DomElement where
  kind : ElementKind
  isConnected : Bool
  value : List UInt16
  selectionStart : Nat
  selectionEnd : Nat
  textContent : List UInt16
  events : List DomEvent
  start_le_end : selectionStart ≤ selectionEnd
  end_le_length : selectionEnd ≤ value.length

/-- What the browser does with a text: the value that a control has when it is set to the text, and
the content of an editable element after `execCommand('insertText')`. -/
structure DomHost where
  sanitize : TextControl → List UInt16 → List UInt16
  insertText : List UInt16 → List UInt16 → List UInt16
  sanitize_nil : ∀ control : TextControl, control.acceptsText = true → sanitize control [] = []

/-- How a script ends. -/
inductive Completion where
  | returned (value : String)
  | threw (message : String)

/-- What the evaluation of a script answers. -/
def Completion.outcome : Completion → EvaluationOutcome
  | returned value => .result true (.string value)
  | threw message => .result false (.string message)

/-- The status of `EvalStatusJS`. -/
def Completion.status (chromium : Chromium) (completion : Completion) : BrowserStatus :=
  evalStatus (evaluationResult chromium completion.outcome)

namespace DomElement

def dispatchEvent (event : DomEvent) (el : DomElement) : DomElement :=
  { el with events := el.events ++ [event] }

/-- `null` where the control has no selection. -/
def getSelectionStart (el : DomElement) : Option Nat :=
  match el.kind with
  | .control control => if control.supportsSelection then some el.selectionStart else none
  | _ => none

def getSelectionEnd (el : DomElement) : Option Nat :=
  match el.kind with
  | .control control => if control.supportsSelection then some el.selectionEnd else none
  | _ => none

/-- The value and the selection at one place in it. -/
def withValue (value : List UInt16) (caret : Nat) (el : DomElement) : DomElement :=
  { el with
    value := value
    selectionStart := min caret value.length
    selectionEnd := min caret value.length
    start_le_end := le_refl _
    end_le_length := min_le_right _ _ }

/-- Setting `value` moves the selection to the end, if the value changes. -/
def setValue (host : DomHost) (value : List UInt16) (el : DomElement) : DomElement :=
  let value :=
    match el.kind with
    | .control control => host.sanitize control value
    | _ => value
  if value = el.value then el else el.withValue value value.length

def hasSetRangeText (el : DomElement) : Bool :=
  match el.kind with
  | .control _ => true
  | _ => false

/-- `setRangeText(text, start, end, 'end')`. -/
def setRangeText (host : DomHost) (text : List UInt16) (start stop : Nat) (el : DomElement) :
    Except String DomElement :=
  match el.kind with
  | .control control =>
      if !control.supportsSelection then .error "InvalidStateError"
      else if stop < start then .error "IndexSizeError"
      else
        let value := host.sanitize control (el.value.take start ++ text ++ el.value.drop stop)
        .ok (el.withValue value (start + text.length))
  | _ => .error "TypeError"

/-- The script from `const tag` on. -/
def typeText (host : DomHost) (text : List UInt16) (clear : Bool) (el : DomElement) :
    Completion × DomElement :=
  match el.kind with
  | .other isContentEditable =>
      if isContentEditable then
        let el := if clear then { el with textContent := [] } else el
        let el := { el with textContent := host.insertText text el.textContent }
        (.returned "Typed text", el.dispatchEvent (.input text))
      else (.returned "Error: element does not accept text", el)
  | _ =>
      let el := if clear then el.setValue host [] else el
      if el.hasSetRangeText then
        let start := el.getSelectionStart.getD el.value.length
        let stop := el.getSelectionEnd.getD el.value.length
        match el.setRangeText host text start stop with
        | .error message => (.threw message, el)
        | .ok el =>
            (.returned "Typed text", (el.dispatchEvent (.input text)).dispatchEvent .change)
      else
        let el := el.setValue host (el.value ++ text)
        (.returned "Typed text", (el.dispatchEvent (.input text)).dispatchEvent .change)

end DomElement

/-- `DomTypeExpression`, evaluated in a page with `refs` as its `window.__browserdDomRefs`. -/
def domTypeExpression (host : DomHost) (index : Nat) (text : String) (clear : Bool)
    (refs : List DomElement) : Completion × List DomElement :=
  match refs[index]? with
  | none => (.returned "Error: element ref not found; call browser_snapshot again", refs)
  | some el =>
      if !el.isConnected then
        (.returned "Error: element ref not found; call browser_snapshot again", refs)
      else
        let (completion, el) := el.typeText host (utf16 text) clear
        (completion, refs.set index el)

end Browserd
