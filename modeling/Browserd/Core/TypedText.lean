import Browserd.Base.UTF16
import Browserd.Core.InteractionRuns
import Browserd.Core.NavigationCompleteness

/-!
# The text that is typed at a node

`TypeNextChar` takes the bytes of the text one at a time, and puts each into the text of a `kChar`
event as if it were a character.
-/

namespace Browserd

def keyboardEvents (log : List InteractionEvent) : List KeyboardEvent :=
  log.filterMap fun
    | .acted (.forwardKeyboardEvent event) => some event
    | _ => none

/-- The text that an event inserts; it ends at the first unit that is zero. -/
def KeyboardEvent.insertedText (event : KeyboardEvent) : List UInt16 :=
  match event.type with
  | .char => if event.text = 0 then [] else [event.text]
  | _ => []

def insertedText (log : List InteractionEvent) : List UInt16 :=
  (keyboardEvents log).flatMap KeyboardEvent.insertedText

/-- The key of a character goes down before it and up after it. -/
def KeyStrokes : List KeyboardEvent → Prop
  | [] => True
  | down :: char :: up :: rest =>
      down.type = .rawKeyDown ∧ char.type = .char ∧ up = { down with type := .keyUp } ∧
        KeyStrokes rest
  | _ => False

/-- The log of an operation that inserted `text` and then completed, once. -/
structure TypesText (log : List InteractionEvent) (text : String) : Prop where
  inserted : insertedText log = utf16 text
  strokes : KeyStrokes (keyboardEvents log)
  completes : ∃ before result, log = before ++ [.reported result] ∧ reportedResults before = []

/-- What `TypeNextChar` sends for a byte. -/
def keyStroke (c : UInt8) : List KeyboardEvent :=
  let mapping := mapCharacter c
  [⟨.rawKeyDown, mapping.modifiers, mapping.windowsKeyCode, mapping.domKey, 0⟩,
    ⟨.char, mapping.modifiers, charValue c, mapping.domKey, UInt16.ofInt (charValue c)⟩,
    ⟨.keyUp, mapping.modifiers, mapping.windowsKeyCode, mapping.domKey, 0⟩]

theorem keyStrokes_flatMap (bytes : List UInt8) : KeyStrokes (bytes.flatMap keyStroke) := by
  induction bytes with
  | nil => trivial
  | cons c bytes ih => exact ⟨rfl, rfl, rfl, ih⟩

/-- The units that a byte inserts. -/
def typedUnits (c : UInt8) : List UInt16 := (keyStroke c).flatMap KeyboardEvent.insertedText

theorem typedUnits_eq (c : UInt8) :
    typedUnits c =
      if UInt16.ofInt (charValue c) = 0 then [] else [UInt16.ofInt (charValue c)] := by
  simp [typedUnits, keyStroke, KeyboardEvent.insertedText]

theorem zero_notMem_typedUnits (c : UInt8) : 0 ∉ typedUnits c := by
  rw [typedUnits_eq]
  split
  · simp
  · rename_i h
    simpa using Ne.symm h

private theorem charValue_unit : ∀ n : Fin 256,
    (0 < n.val → UInt16.ofInt (charValue (UInt8.ofNat n.val)) ≠ 0) ∧
      (n.val < 0x80 →
        UInt16.ofInt (charValue (UInt8.ofNat n.val)) = UInt16.ofNat n.val) := by
  decide +kernel

theorem typedUnits_length {c : UInt8} (h : c ≠ 0) : (typedUnits c).length = 1 := by
  have hpos : 0 < c.toNat := by
    apply Nat.pos_of_ne_zero
    intro hzero
    exact h (UInt8.toNat_inj.mp hzero)
  have hunit : UInt16.ofInt (charValue c) ≠ 0 := by
    have hfin := (charValue_unit ⟨c.toNat, c.toNat_lt⟩).1 hpos
    rwa [UInt8.ofNat_toNat] at hfin
  rw [typedUnits_eq, if_neg hunit, List.length_singleton]

theorem typedUnits_of_lt {n : Nat} (hpos : 0 < n) (hlt : n < 0x80) :
    typedUnits (UInt8.ofNat n) = [UInt16.ofNat n] := by
  have hfin := charValue_unit ⟨n, by omega⟩
  rw [typedUnits_eq, if_neg (hfin.1 hpos), hfin.2 hlt]

theorem flatMap_typedUnits_length {bytes : List UInt8} (h : ∀ b ∈ bytes, b ≠ 0) :
    (bytes.flatMap typedUnits).length = bytes.length := by
  induction bytes with
  | nil => rfl
  | cons b bytes ih =>
      rw [List.forall_mem_cons] at h
      rw [List.flatMap_cons, List.length_append, typedUnits_length h.1, ih h.2, List.length_cons,
        Nat.add_comm]

theorem typedUnits_of_plainASCII {c : Char} (h : isPlainASCII c = true) :
    (String.utf8EncodeChar c).flatMap typedUnits = utf16Char c := by
  simp only [isPlainASCII, Bool.and_eq_true, decide_eq_true_eq] at h
  rw [utf8EncodeChar_of_lt h.2, utf16Char_of_lt h.2]
  simpa using typedUnits_of_lt h.1 h.2

/-- The bytes of a text insert its units exactly when all of them are those of plain ASCII
characters. -/
theorem typedUnits_eq_utf16_iff (text : String) :
    text.toUTF8.toList.flatMap typedUnits = utf16 text ↔
      ∀ c ∈ text.toList, isPlainASCII c = true := by
  rw [toUTF8_toList, utf16, List.flatMap_assoc]
  constructor
  · intro heq c hc
    -- A NUL inserts nothing, where the text has a zero unit.
    have hpos : ∀ c ∈ text.toList, 0 < c.toNat := by
      intro c hc
      apply Nat.pos_of_ne_zero
      intro hzero
      have hmem : (0 : UInt16) ∈ text.toList.flatMap utf16Char := by
        apply List.mem_flatMap.mpr
        exact ⟨c, hc, by simp [utf16Char, hzero]⟩
      rw [← heq] at hmem
      obtain ⟨c', _, hmem⟩ := List.mem_flatMap.mp hmem
      obtain ⟨b, _, hmem⟩ := List.mem_flatMap.mp hmem
      exact zero_notMem_typedUnits b hmem
    -- Every other byte inserts a unit, and other characters have more bytes than units.
    have hbytes : ∀ b ∈ text.toList.flatMap String.utf8EncodeChar, b ≠ 0 := by
      intro b hb
      obtain ⟨c', hc', hb⟩ := List.mem_flatMap.mp hb
      exact utf8EncodeChar_ne_zero (hpos c' hc') hb
    have hlength := flatMap_typedUnits_length hbytes
    rw [List.flatMap_assoc, heq] at hlength
    have hlt := (utf16_length_le text.toList).2 hlength c hc
    simp only [isPlainASCII, Bool.and_eq_true, decide_eq_true_eq]
    exact ⟨hpos c hc, hlt⟩
  · intro h
    apply List.flatMap_congr
    intro c hc
    exact typedUnits_of_plainASCII (h c hc)

namespace Interaction

/-- The operation waits for the task that types `rest`, after `typed`. -/
structure Typing (op : Interaction) (typed rest : List UInt8) : Prop where
  waitingFor : op.waitingFor = some (.task (.typeNextChar rest))
  results : reportedResults op.log = []
  events : keyboardEvents op.log = typed.flatMap keyStroke

/-- The operation has typed `typed` and has completed after that, once. -/
structure Typed (op : Interaction) (typed : List UInt8) : Prop where
  waitingFor : op.waitingFor = none
  events : keyboardEvents op.log = typed.flatMap keyStroke
  completes : ∃ before result, op.log = before ++ [.reported result] ∧ reportedResults before = []

variable {op : Interaction} {typed rest : List UInt8} (chromium : Chromium)

theorem typed_report (hresults : reportedResults op.log = [])
    (hevents : keyboardEvents op.log = typed.flatMap keyStroke) (result : OperationResult) :
    (op.report result).Typed typed where
  waitingFor := rfl
  events := by
    simp only [keyboardEvents] at hevents
    simpa [keyboardEvents] using hevents
  completes := ⟨op.log, result, rfl, hresults⟩

/-- The two tasks of a byte. -/
theorem Typing.stroke {c : UInt8} (h : op.Typing typed (c :: rest))
    {press release : TabView × RandomDraws} (hpress : press.1.hasRenderView = true)
    (hrelease : release.1.hasRenderView = true) :
    ((op.step chromium (.runTask press.1 press.2)).step chromium
      (.runTask release.1 release.2)).Typing (typed ++ [c]) rest := by
  have hwaiting := h.waitingFor
  have hresults := h.results
  have hevents := h.events
  simp only [reportedResults, keyboardEvents] at hresults hevents
  constructor
  · simp [step, hwaiting, runTask, typeNextChar, withRenderView, hpress, hrelease, suspend]
  · simp [step, hwaiting, runTask, typeNextChar, withRenderView, hpress, hrelease, suspend, keyUp,
      reportedResults, hresults]
  · simp [step, hwaiting, runTask, typeNextChar, withRenderView, hpress, hrelease, suspend, keyUp,
      keyboardEvents, hevents, keyStroke]

/-- The task after the last byte asks the page for its change event. -/
theorem Typing.last (h : op.Typing typed []) (task : TabView × RandomDraws)
    (tasks : List (TabView × RandomDraws)) (outcome : EvaluationOutcome) :
    ((op.step chromium (.runTask task.1 task.2)).run chromium
      (taskInputs tasks ++ [.evaluated outcome])).Typed typed := by
  have hresults := h.results
  have hevents := h.events
  simp only [reportedResults, keyboardEvents] at hresults hevents
  rw [run_append, run_cons, run_nil]
  simp only [step, h.waitingFor, runTask, typeNextChar, evaluateWithDevTools]
  by_cases hframe : (!task.1.hasMainFrame || !task.1.mainFrameLive) = true
  · simp only [hframe, if_true]
    rw [run_taskInputs_of_idle chromium (by simp [reportStatus, report])]
    simp only [reportStatus, report]
    apply typed_report
    · simpa [reportedResults] using hresults
    · simpa [keyboardEvents] using hevents
  · simp only [hframe, Bool.false_eq_true, if_false]
    rw [run_taskInputs_of_idle chromium (by simp [suspend])]
    simp only [suspend, reportStatus]
    apply typed_report
    · simpa [reportedResults] using hresults
    · simpa [keyboardEvents] using hevents

/-- The text is typed when there are two tasks for each byte and one more. -/
theorem Typing.run (h : op.Typing typed rest) {tasks : List (TabView × RandomDraws)}
    (hview : ∀ task ∈ tasks, task.1.hasRenderView = true)
    (hlength : 2 * rest.length < tasks.length) (outcome : EvaluationOutcome) :
    (op.run chromium (taskInputs tasks ++ [.evaluated outcome])).Typed (typed ++ rest) := by
  induction rest generalizing op typed tasks with
  | nil =>
      cases tasks with
      | nil => simp at hlength
      | cons task tasks =>
          rw [List.append_nil]
          exact h.last chromium task tasks outcome
  | cons c rest ih =>
      match tasks with
      | [] => simp at hlength
      | [_] =>
          simp only [List.length_cons, List.length_nil] at hlength
          omega
      | press :: release :: tasks =>
          have hstroke := h.stroke chromium (hview press (by simp)) (hview release (by simp))
          have htasks : ∀ task ∈ tasks, task.1.hasRenderView = true :=
            fun task htask => hview task (by simp [htask])
          have hrest := ih hstroke htasks (by simp only [List.length_cons] at hlength; omega)
          rwa [List.append_assoc] at hrest

theorem Typed.insertedText_eq (h : op.Typed typed) :
    insertedText op.log = typed.flatMap typedUnits := by
  rw [insertedText, h.events, List.flatMap_assoc]
  rfl

section Requests

variable {ρ : Type} [BrowserRuntime ρ] (rt : ρ) (targetId : Option String) {page : WebContents}
  (hpage : BrowserController.resolveWebContents rt targetId = some page) (mouse : BezierPoint)
  (ref text : String) (clear : Bool) (hdom : parseDomRef ref = none) (node : Int)
  (hnode : parseRef ref = some node) (view : TabView) (hframe : view.hasMainFrame = true)
  (random : RandomDraws) (tasks : List (TabView × RandomDraws))
  (htasks : ∀ task ∈ tasks, task.1.hasRenderView = true)
  (hlength : 2 * text.utf8ByteSize < tasks.length) (outcome : EvaluationOutcome)

include hpage hdom hnode hframe htasks hlength

theorem type_typed :
    ((request rt targetId view random mouse (.type ref text clear)).run chromium
      (taskInputs tasks ++ [.evaluated outcome])).Typed text.toUTF8.toList := by
  have htyping : (request rt targetId view random mouse (.type ref text clear)).Typing []
      text.toUTF8.toList := by
    simp only [request, BrowserController.type, BrowserController.onTab, hpage, hdom, hnode,
      BrowserController.performAction, hframe]
    cases clear <;> exact ⟨rfl, rfl, rfl⟩
  rw [← toUTF8_toList_length] at hlength
  exact htyping.run chromium htasks hlength outcome

/-- Typing at a node, while the tab keeps its view, inserts the text and then completes exactly
when all characters of the text are plain ASCII characters. -/
theorem type_insertsText_iff :
    TypesText ((request rt targetId view random mouse (.type ref text clear)).run chromium
      (taskInputs tasks ++ [.evaluated outcome])).log text ↔
      ∀ c ∈ text.toList, isPlainASCII c = true := by
  have htyped := type_typed chromium rt targetId hpage mouse ref text clear hdom node hnode view
    hframe random tasks htasks hlength outcome
  rw [← typedUnits_eq_utf16_iff]
  constructor
  · intro h
    rw [← htyped.insertedText_eq, h.inserted]
  · intro h
    constructor
    · rw [htyped.insertedText_eq, h]
    · rw [htyped.events]
      exact keyStrokes_flatMap _
    · exact htyped.completes

end Requests

/-- The two bytes of an accented letter insert two other characters. -/
theorem accented_letter_not_typed :
    ¬ ∀ (chromium : Chromium) (rt : HeadlessRuntime) (targetId : Option String)
        (page : WebContents) (mouse : BezierPoint) (ref text : String) (clear : Bool) (node : Int)
        (view : TabView) (random : RandomDraws) (tasks : List (TabView × RandomDraws))
        (outcome : EvaluationOutcome),
        BrowserController.resolveWebContents rt targetId = some page → parseDomRef ref = none →
        parseRef ref = some node → view.hasMainFrame = true →
        (∀ task ∈ tasks, task.1.hasRenderView = true) → 2 * text.utf8ByteSize < tasks.length →
        TypesText ((request rt targetId view random mouse (.type ref text clear)).run chromium
          (taskInputs tasks ++ [.evaluated outcome])).log text := by
  intro h
  have htypes := h shopChromium shopRuntime none _ ⟨500, 400⟩ "7" "é" false 7 shopView shopDraws
    (List.replicate 5 (shopView, shopDraws)) .timeout rfl (by decide) (by decide) rfl
    (by simp [shopView]) (by decide)
  have htyped := type_typed shopChromium shopRuntime none rfl ⟨500, 400⟩ "7" "é" false (by decide)
    7 (by decide) shopView rfl shopDraws (List.replicate 5 (shopView, shopDraws))
    (by simp [shopView]) (by decide) .timeout
  have hunits := htypes.inserted
  rw [htyped.insertedText_eq, toUTF8_toList] at hunits
  exact absurd hunits (by decide)

theorem type_insertsText_sample :
    TypesText ((request shopRuntime none shopView shopDraws ⟨500, 400⟩ (.type "7" "a" false)).run
      shopChromium (taskInputs (List.replicate 3 (shopView, shopDraws)) ++
        [.evaluated .timeout])).log "a" := by
  have hiff := type_insertsText_iff shopChromium shopRuntime none rfl ⟨500, 400⟩ "7" "a" false
    (by decide) 7 (by decide) shopView rfl shopDraws (List.replicate 3 (shopView, shopDraws))
    (by simp [shopView]) (by decide) .timeout
  have hplain : "a".toList.all isPlainASCII = true := by decide
  exact hiff.mpr (List.all_eq_true.mp hplain)

end Interaction

end Browserd
