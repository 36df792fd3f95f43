import Browserd.Core.TypedText

/-!
# Keys that are pressed

What a key string denotes on a US keyboard, against what `PressKey` sends for it. `MapKey` knows the
named keys and the printable characters, and answers every other string with key code 0; `PressKey`
sends no modifiers.
-/

namespace Browserd

/-- The press of a key with its modifier keys. -/
structure KeyPress where
  windowsKeyCode : Int
  domKey : DomKey
  shift : Bool := false
  control : Bool := false
  alt : Bool := false
  command : Bool := false

/-- The names of keys, with the code and the DOM key of each. -/
def namedKeys : List (String × Int × DomKey) :=
  [("Enter", VKey.return_, .enter), ("Tab", VKey.tab, .tab), ("Escape", VKey.escape, .escape),
    ("Backspace", VKey.back, .backspace), ("Delete", VKey.delete, .del),
    ("ArrowUp", VKey.up, .arrowUp), ("ArrowDown", VKey.down, .arrowDown),
    ("ArrowLeft", VKey.left, .arrowLeft), ("ArrowRight", VKey.right, .arrowRight),
    ("Space", VKey.space, .fromCharacter 0x20)]

/-- The keys that type characters: the key code, and the characters that it types without and with
the shift key. -/
def characterKeys : List (Int × Char × Char) :=
  (List.range 26).map (fun i => (VKey.letter i, Char.ofNat (0x61 + i), Char.ofNat (0x41 + i))) ++
    [(VKey.digit 0, '0', ')'), (VKey.digit 1, '1', '!'), (VKey.digit 2, '2', '@'),
      (VKey.digit 3, '3', '#'), (VKey.digit 4, '4', '$'), (VKey.digit 5, '5', '%'),
      (VKey.digit 6, '6', '^'), (VKey.digit 7, '7', '&'), (VKey.digit 8, '8', '*'),
      (VKey.digit 9, '9', '('), (VKey.oem1, ';', ':'), (VKey.oemPlus, '=', '+'),
      (VKey.oemComma, ',', '<'), (VKey.oemMinus, '-', '_'), (VKey.oemPeriod, '.', '>'),
      (VKey.oem2, '/', '?'), (VKey.oem3, '\x60', '~'), (VKey.oem4, '[', '\x7b'),
      (VKey.oem5, '\\', '|'), (VKey.oem6, ']', '\x7d'), (VKey.oem7, '\x27', '"')]

/-- The characters of the keyboard with their key codes, and whether they take the shift key. -/
def typedCharacters : List (Char × Int × Bool) :=
  (' ', VKey.space, false) ::
    characterKeys.flatMap fun (code, plain, shifted) =>
      [(plain, code, false), (shifted, code, true)]

/-- From the space to the tilde. -/
def printable (c : Char) : Bool := 0x20 ≤ c.toNat && c.toNat ≤ 0x7E

/-- The characters that are typed with the shift key. -/
def needsShift (c : Char) : Bool := c.isUpper || c ∈ "!@#$%^&*()_+\x7b\x7d|:\"<>?~".toList

/-- The press that `MapCharacter` computes for a character. -/
def characterPress (c : Char) : KeyPress :=
  let mapping := mapCharacter (UInt8.ofNat c.toNat)
  ⟨mapping.windowsKeyCode, mapping.domKey, mapping.modifiers == .shiftKey, false, false, false⟩

/-- A key string denotes a named key, a character of the keyboard, or a combination of modifier keys
with one of them. -/
inductive Denotes : String → KeyPress → Prop
  | named (key : String) (code : Int) (domKey : DomKey) (known : (key, code, domKey) ∈ namedKeys) :
      Denotes key { windowsKeyCode := code, domKey := domKey }
  | character (c : Char) (code : Int) (shift : Bool) (known : (c, code, shift) ∈ typedCharacters) :
      Denotes (String.singleton c)
        { windowsKeyCode := code, domKey := .fromCharacter c.val, shift := shift }
  | shift (key : String) (press : KeyPress) (base : Denotes key press) :
      Denotes ("Shift+" ++ key) { press with shift := true }
  | control (key : String) (press : KeyPress) (base : Denotes key press) :
      Denotes ("Control+" ++ key) { press with control := true }
  | alt (key : String) (press : KeyPress) (base : Denotes key press) :
      Denotes ("Alt+" ++ key) { press with alt := true }
  | command (key : String) (press : KeyPress) (base : Denotes key press) :
      Denotes ("Meta+" ++ key) { press with command := true }

/-- The event that a press sends when its key goes down or up. An event carries the shift modifier
or none. -/
def KeyPress.Sends (press : KeyPress) (type : KeyboardEventType) (event : KeyboardEvent) : Prop :=
  event.type = type ∧ event.windowsKeyCode = press.windowsKeyCode ∧
    event.domKey = press.domKey ∧ (event.modifiers = .shiftKey ↔ press.shift = true) ∧
    press.control = false ∧ press.alt = false ∧ press.command = false

/-- The operation has failed without an event, or it has pressed and released what the key string
denotes. -/
def PressesHonestly (log : List InteractionEvent) (key : String) : Prop :=
  (∃ status, reportedResults log = [.status status] ∧ status.isOk = false ∧
      keyboardEvents log = []) ∨
    (reportedResults log = [.status .ok] ∧ ∃ press down up, Denotes key press ∧
      keyboardEvents log = [down, up] ∧ press.Sends .rawKeyDown down ∧ press.Sends .keyUp up)

theorem mapKey_named {key : String} {code : Int} {domKey : DomKey}
    (h : (key, code, domKey) ∈ namedKeys) : mapKey key = ⟨code, .noModifiers, domKey⟩ := by
  simp only [namedKeys, List.mem_cons, List.not_mem_nil, or_false, Prod.mk.injEq] at h
  rcases h with h | h | h | h | h | h | h | h | h | h
  all_goals
    obtain ⟨rfl, rfl, rfl⟩ := h
    rfl

private theorem singleton_ne {c : Char} {name : String} (h : name.toList.length ≠ 1) :
    String.singleton c ≠ name := by
  intro heq
  apply h
  rw [← heq, String.toList_singleton, List.length_singleton]

theorem mapKey_singleton {c : Char} (h : c.toNat < 0x80) :
    mapKey (String.singleton c) = mapCharacter (UInt8.ofNat c.toNat) := by
  have hbytes : (String.singleton c).toUTF8.toList = [UInt8.ofNat c.toNat] := by
    rw [toUTF8_toList, String.toList_singleton, List.flatMap_singleton, utf8EncodeChar_of_lt h]
  have hname (name : String) (hlength : name.toList.length ≠ 1) :
      ¬ String.singleton c = name := singleton_ne hlength
  by_cases hspace : String.singleton c = " "
  · have hc : c = ' ' := by
      have hlist := congrArg String.toList hspace
      simpa using hlist
    subst hc
    rfl
  · simp only [mapKey]
    rw [if_neg (hname _ (by decide)), if_neg (hname _ (by decide)), if_neg (hname _ (by decide)),
      if_neg (hname _ (by decide)), if_neg (hname _ (by decide)), if_neg (hname _ (by decide)),
      if_neg (hname _ (by decide)), if_neg (hname _ (by decide)), if_neg (hname _ (by decide)),
      if_neg (by simpa [hspace] using hname "Space" (by decide)), hbytes]

/-- The characters of the keyboard are the printable ones, each with one key. -/
private theorem typedCharacters_ascii : ∀ n : Fin 0x80,
    (typedCharacters.filter fun typed => typed.1 == Char.ofNat n.val) =
      if printable (Char.ofNat n.val) then
        [(Char.ofNat n.val, (mapCharacter (UInt8.ofNat n.val)).windowsKeyCode,
          needsShift (Char.ofNat n.val))]
      else [] := by
  decide +kernel

private theorem mapCharacter_ascii : ∀ n : Fin 0x80, printable (Char.ofNat n.val) = true →
    ((mapCharacter (UInt8.ofNat n.val)).modifiers == .shiftKey) = needsShift (Char.ofNat n.val) ∧
      (mapCharacter (UInt8.ofNat n.val)).domKey = .fromCharacter (Char.ofNat n.val).val := by
  decide +kernel

theorem lt_of_printable {c : Char} (h : printable c = true) : c.toNat < 0x80 := by
  simp only [printable, Bool.and_eq_true, decide_eq_true_eq] at h
  omega

theorem characterPress_eq {c : Char} (h : printable c = true) :
    (characterPress c).shift = needsShift c ∧ (characterPress c).domKey = .fromCharacter c.val := by
  have hmapping := mapCharacter_ascii ⟨c.toNat, lt_of_printable h⟩
  rw [Char.ofNat_toNat] at hmapping
  exact hmapping h

private theorem typedCharacters_lt : ∀ typed ∈ typedCharacters, typed.1.toNat < 0x80 := by
  decide +kernel

theorem mem_typedCharacters_iff {c : Char} {code : Int} {shift : Bool} :
    (c, code, shift) ∈ typedCharacters ↔
      printable c = true ∧ code = (mapCharacter (UInt8.ofNat c.toNat)).windowsKeyCode ∧
        shift = needsShift c := by
  have hfilter (h : c.toNat < 0x80) := typedCharacters_ascii ⟨c.toNat, h⟩
  simp only [Char.ofNat_toNat] at hfilter
  constructor
  · intro hmem
    have hlt : c.toNat < 0x80 := typedCharacters_lt _ hmem
    have hkept : (c, code, shift) ∈ typedCharacters.filter fun typed => typed.1 == c :=
      List.mem_filter.mpr ⟨hmem, beq_self_eq_true c⟩
    rw [hfilter hlt] at hkept
    split at hkept
    · rename_i hprintable
      have heq := List.mem_singleton.mp hkept
      simp only [Prod.mk.injEq, true_and] at heq
      exact ⟨hprintable, heq⟩
    · cases hkept
  · rintro ⟨hprintable, rfl, rfl⟩
    have hkept := hfilter (lt_of_printable hprintable)
    rw [if_pos hprintable] at hkept
    have hmem := List.mem_singleton_self (c, (mapCharacter (UInt8.ofNat c.toNat)).windowsKeyCode,
      needsShift c)
    rw [← hkept] at hmem
    exact (List.mem_filter.mp hmem).1

/-- What `MapCharacter` computes for a printable character is what the character denotes. -/
theorem characterPress_denotes {c : Char} (h : printable c = true) :
    Denotes (String.singleton c) (characterPress c) := by
  obtain ⟨hshift, hdomKey⟩ := characterPress_eq h
  have hdenotes := Denotes.character c _ _ (mem_typedCharacters_iff.mpr ⟨h, rfl, rfl⟩)
  rw [← hshift, ← hdomKey] at hdenotes
  exact hdenotes

/-- No key string denotes a press of key code 0. -/
theorem Denotes.windowsKeyCode_ne_zero {key : String} {press : KeyPress} (h : Denotes key press) :
    press.windowsKeyCode ≠ 0 := by
  induction h with
  | named key code domKey known =>
      have hcodes : ∀ named ∈ namedKeys, named.2.1 ≠ 0 := by decide
      exact hcodes _ known
  | character c code shift known =>
      have hcodes : ∀ typed ∈ typedCharacters, typed.2.1 ≠ 0 := by decide +kernel
      exact hcodes _ known
  | shift _ _ _ ih => exact ih
  | control _ _ _ ih => exact ih
  | alt _ _ _ ih => exact ih
  | command _ _ _ ih => exact ih

namespace Interaction

variable {ρ : Type} [BrowserRuntime ρ]

/-- An operation that has pressed the key and released it again has succeeded; one without a view
has failed, before or after the key went down. -/
theorem pressKey_run (chromium : Chromium) (rt : ρ) (targetId : Option String)
    (mouse : BezierPoint) (key : String) (view later : TabView) (random random' : RandomDraws) :
    let mapping := mapKey key
    let down : KeyboardEvent :=
      ⟨.rawKeyDown, .noModifiers, mapping.windowsKeyCode, mapping.domKey, 0⟩
    let up : KeyboardEvent := ⟨.keyUp, .noModifiers, mapping.windowsKeyCode, mapping.domKey, 0⟩
    let log := ((request rt targetId view random mouse (.pressKey key)).run chromium
      [.runTask later random']).log
    (reportedResults log, keyboardEvents log) =
      if (BrowserController.resolveWebContents rt targetId).isNone then
        ([.status (tabNotFound targetId)], [])
      else if !view.hasRenderView then ([.status noRenderView], [])
      else if !later.hasRenderView then ([.status noRenderView], [down])
      else ([.status .ok], [down, up]) := by
  simp only [request, BrowserController.pressKey, BrowserController.onTab]
  cases hpage : BrowserController.resolveWebContents rt targetId with
  | none => rfl
  | some page =>
      cases hview : view.hasRenderView with
      | false =>
          simp [withRenderView, hview, reportStatus, report, step, reportedResults,
            keyboardEvents, start]
      | true =>
          cases hlater : later.hasRenderView <;>
            simp [withRenderView, hview, hlater, reportStatus, suspend, step, runTask, keyUp,
              reportedResults, keyboardEvents, start]

/-- A key string that `PressKey` sends as it should. -/
def SentUnmodified (key : String) : Prop :=
  (∃ named ∈ namedKeys, named.1 = key) ∨
    ∃ c : Char, key = String.singleton c ∧ printable c = true ∧ needsShift c = false

/-- What the mapping of a key is sent as is what the key denotes. -/
theorem exists_sends_iff (key : String) :
    (∃ press, Denotes key press ∧
      press.Sends .rawKeyDown
        ⟨.rawKeyDown, .noModifiers, (mapKey key).windowsKeyCode, (mapKey key).domKey, 0⟩ ∧
      press.Sends .keyUp
        ⟨.keyUp, .noModifiers, (mapKey key).windowsKeyCode, (mapKey key).domKey, 0⟩) ↔
      SentUnmodified key := by
  constructor
  · intro h
    obtain ⟨press, hdenotes, ⟨-, -, -, hshift, hcontrol, halt, hcommand⟩, -⟩ := h
    have hplain : press.shift = false := by simpa using hshift
    cases hdenotes with
    | named key code domKey known => exact .inl ⟨_, known, rfl⟩
    | character c code shift known =>
        obtain ⟨hprintable, -, rfl⟩ := mem_typedCharacters_iff.mp known
        exact .inr ⟨c, rfl, hprintable, hplain⟩
    | shift => cases hplain
    | control => cases hcontrol
    | alt => cases halt
    | command => cases hcommand
  · intro h
    rcases h with ⟨⟨name, code, domKey⟩, hknown, rfl⟩ | ⟨c, rfl, hprintable, hshift⟩
    · refine ⟨_, .named name code domKey hknown, ?_⟩
      rw [mapKey_named hknown]
      simp [KeyPress.Sends]
    · refine ⟨_, characterPress_denotes hprintable, ?_⟩
      rw [← (characterPress_eq hprintable).1] at hshift
      rw [mapKey_singleton (lt_of_printable hprintable)]
      simp only [KeyPress.Sends, hshift]
      simp [characterPress]

theorem pressed_honest_iff (chromium : Chromium) {rt : ρ} {targetId : Option String}
    {page : WebContents} (hpage : BrowserController.resolveWebContents rt targetId = some page)
    (mouse : BezierPoint) (key : String) {view later : TabView} (hview : view.hasRenderView = true)
    (hlater : later.hasRenderView = true) (random random' : RandomDraws) :
    PressesHonestly ((request rt targetId view random mouse (.pressKey key)).run chromium
      [.runTask later random']).log key ↔ SentUnmodified key := by
  have hrun := pressKey_run chromium rt targetId mouse key view later random random'
  simp only [hpage, hview, hlater, Option.isNone_some, Bool.false_eq_true, if_false, Bool.not_true,
    Prod.mk.injEq] at hrun
  rw [PressesHonestly, hrun.1, hrun.2, ← exists_sends_iff]
  simp

theorem pressKey_run_iff (chromium : Chromium) (rt : ρ) (targetId : Option String)
    (mouse : BezierPoint) (key : String) (view later : TabView) (random random' : RandomDraws) :
    PressesHonestly ((request rt targetId view random mouse (.pressKey key)).run chromium
      [.runTask later random']).log key ↔
      BrowserController.resolveWebContents rt targetId = none ∨ view.hasRenderView = false ∨
        (later.hasRenderView = true ∧ SentUnmodified key) := by
  have hrun := pressKey_run chromium rt targetId mouse key view later random random'
  cases hpage : BrowserController.resolveWebContents rt targetId with
  | none =>
      simp only [hpage, Option.isNone_none, if_true, Prod.mk.injEq] at hrun
      rw [PressesHonestly, hrun.1, hrun.2]
      simp [tabNotFound]
  | some page =>
      cases hview : view.hasRenderView with
      | false =>
          simp only [hpage, hview, Option.isNone_some, Bool.false_eq_true, if_false, Bool.not_false,
            if_true, Prod.mk.injEq] at hrun
          rw [PressesHonestly, hrun.1, hrun.2]
          simp [noRenderView]
      | true =>
          cases hlater : later.hasRenderView with
          | false =>
              -- The key is down already when the release fails.
              simp only [hpage, hview, hlater, Option.isNone_some, Bool.false_eq_true, if_false,
                Bool.not_true, Bool.not_false, if_true, Prod.mk.injEq] at hrun
              rw [PressesHonestly, hrun.1, hrun.2]
              simp
          | true =>
              rw [pressed_honest_iff chromium hpage mouse key hview hlater]
              simp

/-- `PressKey` fails without an event or presses what the key string denotes, exactly when the tab
or its view is missing from the start, or the view stays and the string is a named key or a
printable character that is typed without the shift key. Nothing denotes key code 0, and a printable
character denotes what `MapCharacter` computes for it. -/
theorem pressKey_honest_iff (chromium : Chromium) (rt : ρ) (targetId : Option String)
    (mouse : BezierPoint) (key : String) (view later : TabView) (random random' : RandomDraws) :
    (PressesHonestly ((request rt targetId view random mouse (.pressKey key)).run chromium
        [.runTask later random']).log key ↔
      BrowserController.resolveWebContents rt targetId = none ∨ view.hasRenderView = false ∨
        (later.hasRenderView = true ∧ SentUnmodified key)) ∧
      (∀ press, Denotes key press → press.windowsKeyCode ≠ 0) ∧
      ∀ c, printable c = true → Denotes (String.singleton c) (characterPress c) := by
  refine ⟨?_, ?_, ?_⟩
  · exact pressKey_run_iff chromium rt targetId mouse key view later random random'
  · intro press hdenotes
    exact hdenotes.windowsKeyCode_ne_zero
  · intro c hprintable
    exact characterPress_denotes hprintable

/-- A combination of keys is reported as pressed, and an empty mapping is sent. -/
theorem combination_not_pressed :
    ¬ ∀ (chromium : Chromium) (rt : HeadlessRuntime) (targetId : Option String)
        (mouse : BezierPoint) (key : String) (view later : TabView) (random random' : RandomDraws),
        PressesHonestly ((request rt targetId view random mouse (.pressKey key)).run chromium
          [.runTask later random']).log key := by
  intro h
  have hpresses := h shopChromium shopRuntime none ⟨500, 400⟩ "Control+A" shopView shopView
    shopDraws shopDraws
  rw [pressed_honest_iff shopChromium rfl _ _ rfl rfl] at hpresses
  rcases hpresses with hnamed | ⟨c, hkey, -, -⟩
  · exact absurd hnamed (by decide)
  · exact absurd hkey.symm (singleton_ne (by decide))

end Interaction

end Browserd
