import Browserd.Core.DomTypeExpression
import Browserd.Core.NavigationCompleteness

/-!
# Typing through a DOM reference

What the script does to each kind of element. A field without a selection, such as one for an
address or a number, cannot be typed into: `setRangeText` is there and throws.
-/

namespace Browserd

/-- The value that a control is to have after typing. -/
def promisedValue (text : List UInt16) (clear : Bool) (el : DomElement) : List UInt16 :=
  if clear then text
  else
    match el.getSelectionStart, el.getSelectionEnd with
    | some start, some stop => el.value.take start ++ text ++ el.value.drop stop
    | _, _ => el.value ++ text

namespace ElementKind

def acceptsText : ElementKind → Bool
  | .control field => field.acceptsText
  | foreignControl => false
  | other isContentEditable => isContentEditable

def isControl : ElementKind → Bool
  | control _ => true
  | _ => false

end ElementKind

/-- What typing into a connected element is to do. -/
structure TypedAsPromised (text : List UInt16) (clear : Bool) (el : DomElement)
    (status : BrowserStatus) (typed : DomElement) : Prop where
  succeeds : el.kind.acceptsText = true → status.isOk = true
  edits : el.kind.acceptsText = true → el.kind.isControl = true →
    typed.value = promisedValue text clear el ∧
      typed.events = el.events ++ [.input text, .change]
  unchanged : status.isOk = false → typed.value = el.value

/-- An evaluation of `DomTypeExpression` keeps its promise for the element of the reference, and
leaves an element alone that is no longer in the document. -/
def KeepsPromise (host : DomHost) (chromium : Chromium) (index : Nat) (text : String) (clear : Bool)
    (refs : List DomElement) : Prop :=
  ∀ el typed, refs[index]? = some el →
    (domTypeExpression host index text clear refs).2[index]? = some typed →
    let status := (domTypeExpression host index text clear refs).1.status chromium
    if el.isConnected then TypedAsPromised (utf16 text) clear el status typed
    else status.isOk = false ∧ typed = el

/-- The condition on the element under which typing keeps its promise. -/
def CanBeTyped (host : DomHost) (text : List UInt16) (clear : Bool) (el : DomElement) : Prop :=
  match el.kind with
  | .control control =>
      if control.acceptsText then
        control.supportsSelection = true ∧
          host.sanitize control (promisedValue text clear el) = promisedValue text clear el
      else clear = true → host.sanitize control [] = el.value
  | _ => True

section Typing

variable {host : DomHost} {chromium : Chromium} {text : List UInt16} {clear : Bool}
  {el : DomElement} {control : TextControl}

theorem isOk_threw (message : String) :
    ((Completion.threw message).status chromium).isOk = false := rfl

theorem isOk_typedText : ((Completion.returned "Typed text").status chromium).isOk = true := by
  have hplain : mentionsError "Typed text" = false := by decide
  simp [Completion.status, Completion.outcome, evaluationResult, evalStatus, hplain,
    BrowserResult.ok]

theorem isOk_notFound :
    ((Completion.returned "Error: element ref not found; call browser_snapshot again").status
      chromium).isOk = false := by
  have herror :
      mentionsError "Error: element ref not found; call browser_snapshot again" = true := by decide
  simp [Completion.status, Completion.outcome, evaluationResult, evalStatus, herror,
    BrowserResult.ok]

@[simp] theorem setValue_kind (value : List UInt16) :
    (el.setValue host value).kind = el.kind := by
  simp only [DomElement.setValue]
  split <;> split <;> rfl

@[simp] theorem setValue_events (value : List UInt16) :
    (el.setValue host value).events = el.events := by
  simp only [DomElement.setValue]
  split <;> split <;> rfl

theorem setValue_value (hkind : el.kind = .control control) (value : List UInt16) :
    (el.setValue host value).value = host.sanitize control value := by
  simp only [DomElement.setValue, hkind]
  split
  · rename_i heq
    exact heq.symm
  · rfl

/-- The element after the script's `if (clear)`. -/
def cleared (host : DomHost) (clear : Bool) (el : DomElement) : DomElement :=
  if clear then el.setValue host [] else el

theorem cleared_kind : (cleared host clear el).kind = el.kind := by
  cases clear <;> simp [cleared]

theorem cleared_events : (cleared host clear el).events = el.events := by
  cases clear <;> simp [cleared]

/-- The outcome of `setRangeText` at the field's selection. -/
def splice (host : DomHost) (text : List UInt16) (el : DomElement) : Except String DomElement :=
  el.setRangeText host text (el.getSelectionStart.getD el.value.length)
    (el.getSelectionEnd.getD el.value.length)

/-- What the script does with a field. -/
theorem typeText_control (hkind : el.kind = .control control) :
    el.typeText host text clear =
      match splice host text (cleared host clear el) with
      | .error message => (.threw message, cleared host clear el)
      | .ok typed =>
          (.returned "Typed text", (typed.dispatchEvent (.input text)).dispatchEvent .change) := by
  have hrange : (cleared host clear el).hasSetRangeText = true := by
    simp [DomElement.hasSetRangeText, cleared_kind, hkind]
  simp only [DomElement.typeText, hkind]
  rw [show (if clear then el.setValue host [] else el) = cleared host clear el from rfl,
    if_pos hrange]
  rfl

theorem typeText_of_splice_error {message : String} (hkind : el.kind = .control control)
    (hsplice : splice host text (cleared host clear el) = .error message) :
    el.typeText host text clear = (.threw message, cleared host clear el) := by
  rw [typeText_control hkind, hsplice]

theorem typeText_of_splice_ok {typed : DomElement} (hkind : el.kind = .control control)
    (hsplice : splice host text (cleared host clear el) = .ok typed) :
    el.typeText host text clear =
      (.returned "Typed text", (typed.dispatchEvent (.input text)).dispatchEvent .change) := by
  rw [typeText_control hkind, hsplice]

/-- Without a selection `setRangeText` throws, after the field has been cleared. -/
theorem typeText_of_noSelection (hkind : el.kind = .control control)
    (hselection : control.supportsSelection = false) :
    el.typeText host text clear = (.threw "InvalidStateError", cleared host clear el) := by
  apply typeText_of_splice_error hkind
  simp [splice, DomElement.setRangeText, cleared_kind, hkind, hselection]

/-- What is spliced into the field is what the field is to hold. -/
theorem splice_cleared (hkind : el.kind = .control control)
    (hselection : control.supportsSelection = true) :
    (cleared host clear el).value.take (cleared host clear el).selectionStart ++ text ++
      (cleared host clear el).value.drop (cleared host clear el).selectionEnd =
        promisedValue text clear el := by
  cases clear with
  | false =>
      simp [cleared, promisedValue, DomElement.getSelectionStart, DomElement.getSelectionEnd,
        hkind, hselection]
  | true =>
      have hempty : (cleared host true el).value = [] := by
        rw [cleared, if_pos rfl, setValue_value hkind,
          host.sanitize_nil control (TextControl.acceptsText_of_supportsSelection hselection)]
      simp [hempty, promisedValue]

theorem splice_of_selection (hkind : el.kind = .control control)
    (hselection : control.supportsSelection = true) :
    splice host text el =
      .ok (el.withValue
        (host.sanitize control
          (el.value.take el.selectionStart ++ text ++ el.value.drop el.selectionEnd))
        (el.selectionStart + text.length)) := by
  have hstart : el.getSelectionStart = some el.selectionStart := by
    simp [DomElement.getSelectionStart, hkind, hselection]
  have hstop : el.getSelectionEnd = some el.selectionEnd := by
    simp [DomElement.getSelectionEnd, hkind, hselection]
  have hle := el.start_le_end
  rw [splice, hstart, hstop, Option.getD_some, Option.getD_some, DomElement.setRangeText, hkind]
  simp only [hselection, Bool.not_true, Bool.false_eq_true, if_false]
  rw [if_neg (by omega)]

theorem typeText_of_selection (hkind : el.kind = .control control)
    (hselection : control.supportsSelection = true) :
    ∃ typed, el.typeText host text clear = (.returned "Typed text", typed) ∧
      typed.value = host.sanitize control (promisedValue text clear el) ∧
      typed.events = el.events ++ [.input text, .change] := by
  have hsplice := @splice_of_selection host text _ control
    ((@cleared_kind host clear el).trans hkind) hselection
  rw [splice_cleared hkind hselection] at hsplice
  refine ⟨_, typeText_of_splice_ok hkind hsplice, rfl, ?_⟩
  simp [DomElement.dispatchEvent, DomElement.withValue, cleared_events]

/-- An element that is not a field is typed into as an editable element, or not at all. -/
theorem typedAsPromised_of_other (hkind : ∀ control, el.kind ≠ .control control) :
    TypedAsPromised text clear el ((el.typeText host text clear).1.status chromium)
      (el.typeText host text clear).2 := by
  cases hel : el.kind with
  | control control => exact absurd hel (hkind control)
  | foreignControl =>
      have hrange : ∀ field : DomElement, field.kind = .foreignControl →
          field.hasSetRangeText = false := by
        intro field hfield
        simp [DomElement.hasSetRangeText, hfield]
      have hcleared : (cleared host clear el).kind = .foreignControl := cleared_kind.trans hel
      have hok : (el.typeText host text clear).1 = .returned "Typed text" := by
        simp only [DomElement.typeText, hel]
        rw [show (if clear then el.setValue host [] else el) = cleared host clear el from rfl,
          hrange _ hcleared]
        rfl
      constructor
      case succeeds => simp [hel, ElementKind.acceptsText]
      case edits => simp [hel, ElementKind.acceptsText]
      case unchanged =>
        intro hstatus
        rw [hok, isOk_typedText] at hstatus
        cases hstatus
  | other isContentEditable =>
      cases isContentEditable with
      | true =>
          have hok : (el.typeText host text clear).1 = .returned "Typed text" := by
            simp [DomElement.typeText, hel]
          constructor
          case succeeds =>
            intro _
            rw [hok, isOk_typedText]
          case edits => simp [hel, ElementKind.isControl]
          case unchanged =>
            intro hstatus
            rw [hok, isOk_typedText] at hstatus
            cases hstatus
      | false =>
          constructor
          case succeeds => simp [hel, ElementKind.acceptsText]
          case edits => simp [hel, ElementKind.acceptsText]
          case unchanged => simp [DomElement.typeText, hel]

/-- A field with a selection holds what it is to hold, if it can hold it. -/
theorem typedAsPromised_of_selection_iff (hkind : el.kind = .control control)
    (hselection : control.supportsSelection = true) :
    TypedAsPromised text clear el ((el.typeText host text clear).1.status chromium)
        (el.typeText host text clear).2 ↔
      host.sanitize control (promisedValue text clear el) = promisedValue text clear el := by
  obtain ⟨typed, htype, hvalue, hevents⟩ :=
    @typeText_of_selection host text clear el control hkind hselection
  have haccepts : el.kind.acceptsText = true := by
    rw [hkind]
    exact TextControl.acceptsText_of_supportsSelection hselection
  rw [htype]
  constructor
  · intro hpromised
    exact hvalue.symm.trans (hpromised.edits haccepts (by rw [hkind]; rfl)).1
  · intro hkept
    constructor
    case succeeds => exact fun _ => isOk_typedText
    case edits => exact fun _ _ => ⟨hvalue.trans hkept, hevents⟩
    case unchanged =>
      intro hstatus
      rw [isOk_typedText] at hstatus
      cases hstatus

/-- A field without a selection is left in an error, and what it held is lost if it was cleared. -/
theorem typedAsPromised_of_noSelection_iff (hkind : el.kind = .control control)
    (hselection : control.supportsSelection = false) :
    TypedAsPromised text clear el ((el.typeText host text clear).1.status chromium)
        (el.typeText host text clear).2 ↔
      control.acceptsText = false ∧ (clear = true → host.sanitize control [] = el.value) := by
  have haccepts : el.kind.acceptsText = control.acceptsText := by rw [hkind]; rfl
  have hvalue : (cleared host clear el).value = el.value ↔
      (clear = true → host.sanitize control [] = el.value) := by
    cases clear with
    | false => simp [cleared]
    | true => simp [cleared, setValue_value hkind]
  rw [typeText_of_noSelection hkind hselection, ← hvalue]
  constructor
  · intro hpromised
    constructor
    · by_contra htext
      have hok := hpromised.succeeds (haccepts.trans (by simpa using htext))
      rw [isOk_threw] at hok
      cases hok
    · exact hpromised.unchanged (isOk_threw _)
  · intro h
    obtain ⟨htext, hkept⟩ := h
    constructor
    case succeeds => simp [haccepts, htext]
    case edits => simp [haccepts, htext]
    case unchanged => exact fun _ => hkept

theorem typedAsPromised_iff :
    TypedAsPromised text clear el ((el.typeText host text clear).1.status chromium)
      (el.typeText host text clear).2 ↔ CanBeTyped host text clear el := by
  by_cases hcontrol : ∃ control, el.kind = .control control
  · obtain ⟨control, hkind⟩ := hcontrol
    cases hselection : control.supportsSelection with
    | true =>
        rw [typedAsPromised_of_selection_iff hkind hselection]
        simp [CanBeTyped, hkind, hselection,
          TextControl.acceptsText_of_supportsSelection hselection]
    | false =>
        rw [typedAsPromised_of_noSelection_iff hkind hselection]
        cases htext : control.acceptsText <;> simp [CanBeTyped, hkind, hselection, htext]
  · have hkind : ∀ control, el.kind ≠ .control control := fun control h => hcontrol ⟨control, h⟩
    apply iff_of_true (typedAsPromised_of_other hkind)
    unfold CanBeTyped
    split
    · rename_i control hcontrol
      exact absurd hcontrol (hkind control)
    · trivial

theorem domTypeExpression_connected {index : Nat} {text : String} {refs : List DomElement}
    (hel : refs[index]? = some el) (hconnected : el.isConnected = true) :
    domTypeExpression host index text clear refs =
      ((el.typeText host (utf16 text) clear).1,
        refs.set index (el.typeText host (utf16 text) clear).2) := by
  rw [domTypeExpression, hel]
  simp [hconnected]

theorem domTypeExpression_disconnected {index : Nat} {text : String} {refs : List DomElement}
    (hel : refs[index]? = some el) (hconnected : el.isConnected = false) :
    domTypeExpression host index text clear refs =
      (.returned "Error: element ref not found; call browser_snapshot again", refs) := by
  rw [domTypeExpression, hel]
  simp [hconnected]

end Typing

/-- Typing through a reference keeps its promise unless the element is a field without a selection
into which text can be typed, a field that does not hold the text as it is, or a field for no text
that loses its value by being cleared. -/
theorem domType_keepsPromise_iff (host : DomHost) (chromium : Chromium) (index : Nat)
    (text : String) (clear : Bool) (refs : List DomElement) :
    KeepsPromise host chromium index text clear refs ↔
      ∀ el, refs[index]? = some el → el.isConnected = true →
        CanBeTyped host (utf16 text) clear el := by
  constructor
  · intro hkeeps el hel hconnected
    have hlt : index < refs.length := (List.getElem?_eq_some_iff.mp hel).1
    have hpromised := hkeeps el (el.typeText host (utf16 text) clear).2 hel
    rw [domTypeExpression_connected hel hconnected, if_pos hconnected] at hpromised
    exact typedAsPromised_iff.mp (hpromised (List.getElem?_set_self hlt))
  · intro htyped el typed hel hresult
    have hlt : index < refs.length := (List.getElem?_eq_some_iff.mp hel).1
    cases hconnected : el.isConnected with
    | true =>
        rw [domTypeExpression_connected hel hconnected] at hresult ⊢
        obtain rfl := Option.some.inj ((List.getElem?_set_self hlt).symm.trans hresult)
        exact typedAsPromised_iff.mpr (htyped el hel hconnected)
    | false =>
        rw [domTypeExpression_disconnected hel hconnected] at hresult ⊢
        obtain rfl := Option.some.inj (hel.symm.trans hresult)
        exact ⟨isOk_notFound, rfl⟩

/-- A browser that keeps every text as it is. -/
def plainHost : DomHost where
  sanitize _ value := value
  insertText text content := content ++ text
  sanitize_nil _ _ := rfl

/-- An `email` field with an address in it. -/
def emailField : DomElement where
  kind := .control (.input .email)
  isConnected := true
  value := utf16 "ann@shop.test"
  selectionStart := 0
  selectionEnd := 0
  textContent := []
  events := []
  start_le_end := le_refl 0
  end_le_length := Nat.zero_le _

/-- Typing over the address fails, and the address is gone. -/
theorem email_not_typed :
    ¬ KeepsPromise plainHost shopChromium 0 "bob@shop.test" true [emailField] ∧
      ((domTypeExpression plainHost 0 "bob@shop.test" true [emailField]).1.status
        shopChromium).isOk = false ∧
      (domTypeExpression plainHost 0 "bob@shop.test" true [emailField]).2.map DomElement.value =
        [[]] := by
  have hel : [emailField][0]? = some emailField := rfl
  have hkind : emailField.kind = .control (.input .email) := rfl
  have htyped : domTypeExpression plainHost 0 "bob@shop.test" true [emailField] =
      (.threw "InvalidStateError", [cleared plainHost true emailField]) := by
    rw [domTypeExpression_connected hel rfl, typeText_of_noSelection hkind rfl]
    rfl
  have hvalue : (cleared plainHost true emailField).value = [] :=
    @setValue_value plainHost emailField _ hkind []
  rw [htyped]
  refine ⟨?_, rfl, by rw [List.map_singleton, hvalue]⟩
  intro hkeeps
  have hok := (hkeeps emailField _ rfl (by rw [htyped]; rfl)).succeeds rfl
  rw [htyped] at hok
  cases hok

end Browserd
