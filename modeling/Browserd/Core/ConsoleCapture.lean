import Browserd.Lib.Exec
import Browserd.Lib.Recent

/-!
# The console log of a page

`DidFinishNavigation` sends the capture script to the document in the main frame. The script
empties `window.__browserdLogs` and wraps whatever functions `console` has by then, wrappers of an
earlier execution in the same document included.
-/

namespace Browserd

open Transition

inductive ConsoleLevel where
  | log
  | warn
  | error
  | info
  | debug
  deriving DecidableEq

/-- An argument of a console call and what its conversions return, `none` where they throw; an
`undefined` of `JSON.stringify` is the empty text that `join` makes of it. -/
inductive ConsoleArgument where
  | object (json string : Option String)
  | other (string : Option String)

structure ConsoleCall where
  level : ConsoleLevel
  arguments : List ConsoleArgument
  timestamp : Int

structure ConsoleEntry where
  level : ConsoleLevel
  text : String
  timestamp : Int
  deriving DecidableEq

/-- A function of `console`: the page's own, or one the script has put around another. -/
inductive ConsoleFunction where
  | native
  | wrapper (level : ConsoleLevel) (orig : ConsoleFunction)

namespace ConsoleArgument

def text : ConsoleArgument → Option String
  | .object json string => json.or string
  | .other string => string.or string

end ConsoleArgument

namespace ConsoleCall

def text (c : ConsoleCall) : Option String :=
  (c.arguments.mapM ConsoleArgument.text).map (String.intercalate " ")

/-- What the log should hold for the call. -/
def entry (c : ConsoleCall) : Option ConsoleEntry :=
  c.text.map fun text => { level := c.level, text := text, timestamp := c.timestamp }

end ConsoleCall

namespace ConsoleFunction

/-- `capture(level, args)`, whose exceptions end in its own `catch`. -/
def capture (level : ConsoleLevel) (c : ConsoleCall) :
    Option (List ConsoleEntry) → Option (List ConsoleEntry)
  | none => none
  | some logs =>
      match c.text with
      | none => some logs
      | some text =>
          some (Recent.push 1000 { level := level, text := text, timestamp := c.timestamp } logs)

def call (c : ConsoleCall) :
    ConsoleFunction → Option (List ConsoleEntry) → Option (List ConsoleEntry)
  | .native, logs => logs
  | .wrapper level orig, logs => orig.call c (capture level c logs)

end ConsoleFunction

/-- The document in the main frame of a tab; `logs` is `window.__browserdLogs`, `none` while it is
undefined. `executions` counts the executions of the script in the document, and `calls` are the
console calls since the first. -/
structure ConsoleDocument where
  logs : Option (List ConsoleEntry)
  console : ConsoleLevel → ConsoleFunction
  executions : Nat
  calls : List ConsoleCall

namespace ConsoleDocument

def new : ConsoleDocument where
  logs := none
  console := fun _ => .native
  executions := 0
  calls := []

/-- `kConsoleCaptureScript`. -/
def capture (d : ConsoleDocument) : ConsoleDocument where
  logs := some []
  console := fun level => .wrapper level (d.console level)
  executions := d.executions + 1
  calls := d.calls

def call (c : ConsoleCall) (d : ConsoleDocument) : ConsoleDocument where
  logs := (d.console c.level).call c d.logs
  console := d.console
  executions := d.executions
  calls := if d.executions = 0 then [] else d.calls ++ [c]

/-- The array whose JSON text `ConsoleMessages` returns. -/
def consoleMessages (d : ConsoleDocument) : List ConsoleEntry :=
  d.logs.getD []

/-- From the first execution on, the log is one entry for each of the last 1000 calls. -/
def Exact (d : ConsoleDocument) : Prop :=
  0 < d.executions →
    ∃ logs, d.logs = some logs ∧ (d.calls.rtake 1000).map ConsoleCall.entry = logs.map some

end ConsoleDocument

/-- What `PageInstrumentation` reads of a navigation that finishes, and whether it keeps the
document. -/
structure FinishedNavigation where
  isInPrimaryMainFrame : Bool
  hasCommitted : Bool
  hasRenderFrameHost : Bool
  isSameDocument : Bool

/-- A tab; `scripts` counts the scripts that are on their way to its document. -/
structure ConsoleTab where
  document : ConsoleDocument
  scripts : Nat

/-- `execute` is the arrival of a script at the document. -/
inductive ConsoleEvent where
  | navigate (navigation : FinishedNavigation)
  | execute
  | call (c : ConsoleCall)

namespace ConsoleTab

def start : ConsoleTab where
  document := .new
  scripts := 0

def commit (navigation : FinishedNavigation) (tab : ConsoleTab) : ConsoleTab :=
  if navigation.isInPrimaryMainFrame && navigation.hasCommitted && !navigation.isSameDocument then
    start
  else tab

def didFinishNavigation (navigation : FinishedNavigation) (tab : ConsoleTab) : ConsoleTab :=
  if !navigation.isInPrimaryMainFrame || !navigation.hasCommitted then tab
  else if !navigation.hasRenderFrameHost then tab
  else { tab with scripts := tab.scripts + 1 }

def step (tab : ConsoleTab) : ConsoleEvent → Option ConsoleTab
  | .navigate navigation => some ((tab.commit navigation).didFinishNavigation navigation)
  | .execute =>
      if tab.scripts = 0 then none
      else some { document := tab.document.capture, scripts := tab.scripts - 1 }
  | .call c => some { tab with document := tab.document.call c }

def Exact (tab : ConsoleTab) : Prop := tab.document.Exact

/-- The script is not executed in a document after a call that it was there to log, and a call is
made in a document where it has been executed once, with arguments that have a text. -/
def Once (tab : ConsoleTab) : ConsoleEvent → Prop
  | .navigate _ => True
  | .execute => tab.document.calls = []
  | .call c => tab.document.executions = 0 ∨ tab.document.executions = 1 ∧ c.text.isSome

end ConsoleTab

namespace ConsoleFunction

variable {logs : List ConsoleEntry} {e : ConsoleEntry} {c : ConsoleCall} {level : ConsoleLevel}

/-- What `n` executions of the script make of a function. -/
def nested (level : ConsoleLevel) : Nat → ConsoleFunction
  | 0 => .native
  | n + 1 => .wrapper level (nested level n)

/-- A call leaves an entry behind for each wrapper. -/
theorem call_nested (hentry : c.entry = some e) (n : Nat) :
    (nested c.level n).call c (some logs) = some ((Recent.push 1000 e)^[n] logs) := by
  obtain ⟨text, htext, rfl⟩ := Option.map_eq_some_iff.mp hentry
  induction n generalizing logs with
  | zero => rfl
  | succ n ih =>
      simp only [nested, call, capture, htext]
      exact ih

end ConsoleFunction

namespace ConsoleDocument

variable {d : ConsoleDocument} {c : ConsoleCall} {e : ConsoleEntry} {logs : List ConsoleEntry}

/-- What holds of a document in which every execution and every call has been in time. -/
structure Inv (d : ConsoleDocument) : Prop where
  wrapped : ∀ level, d.console level = .nested level d.executions
  fresh : d.executions = 0 → d.logs = none ∧ d.calls = []
  again : 1 < d.executions → d.calls = []
  exact : d.Exact

theorem new_inv : new.Inv where
  wrapped _ := rfl
  fresh _ := ⟨rfl, rfl⟩
  again h := absurd h (Nat.not_lt_zero _)
  exact h := absurd h (Nat.not_lt_zero _)

/-- In an exact document the tool returns one entry for each of the last 1000 calls. -/
theorem Exact.consoleMessages (h : d.Exact) (hpos : 0 < d.executions) :
    d.consoleMessages.map some = (d.calls.rtake 1000).map ConsoleCall.entry := by
  obtain ⟨logs, hlogs, hcalls⟩ := h hpos
  rw [ConsoleDocument.consoleMessages, hlogs, hcalls]
  rfl

theorem capture_exact_iff : d.capture.Exact ↔ d.calls = [] := by
  constructor
  · intro h
    obtain ⟨logs, hlogs, hcalls⟩ := h (Nat.succ_pos _)
    obtain rfl := Option.some.inj hlogs
    have hrecent : d.calls.rtake 1000 = [] := List.map_eq_nil_iff.mp hcalls
    rw [List.rtake.eq_1, List.drop_eq_nil_iff] at hrecent
    exact List.length_eq_zero_iff.mp (by omega)
  · intro h _
    exact ⟨[], rfl, by simp [capture, h]⟩

theorem Inv.capture (h : d.Inv) (hcalls : d.calls = []) : d.capture.Inv where
  wrapped level := congrArg (ConsoleFunction.wrapper level) (h.wrapped level)
  fresh hzero := absurd hzero (Nat.succ_ne_zero _)
  again _ := hcalls
  exact := capture_exact_iff.mpr hcalls

/-- The log cannot answer for a call that has no text. -/
theorem not_exact_of_text_none (hpos : 0 < d.executions) (htext : c.text = none) :
    ¬ (d.call c).Exact := by
  intro h
  obtain ⟨logs, _, hcalls⟩ := h hpos
  have hmade : (d.call c).calls = d.calls ++ [c] := if_neg (Nat.pos_iff_ne_zero.mp hpos)
  rw [hmade, List.rtake_concat_succ, List.map_append, List.map_singleton,
    show c.entry = none by simp [ConsoleCall.entry, htext]] at hcalls
  have hnone : none ∈ logs.map some := by
    rw [← hcalls]
    simp
  simp at hnone

theorem call_logs (h : d.Inv) (hlogs : d.logs = some logs) (hentry : c.entry = some e) :
    (d.call c).logs = some ((Recent.push 1000 e)^[d.executions] logs) := by
  change (d.console c.level).call c d.logs = _
  rw [h.wrapped, hlogs]
  exact ConsoleFunction.call_nested hentry _

/-- One wrapper keeps the log. -/
theorem call_exact_one (h : d.Inv) (hone : d.executions = 1) (hentry : c.entry = some e) :
    (d.call c).Exact := by
  intro _
  obtain ⟨logs, hlogs, hcalls⟩ := h.exact (by omega)
  refine ⟨Recent.push 1000 e logs, ?_, ?_⟩
  · rw [call_logs h hlogs hentry, hone]
    rfl
  · have hmade : (d.call c).calls = d.calls ++ [c] := if_neg (by omega)
    calc ((d.call c).calls.rtake 1000).map ConsoleCall.entry
        = (Recent.push 1000 c (d.calls.rtake 1000)).map ConsoleCall.entry := by
          rw [hmade, Recent.push_rtake]
      _ = Recent.push 1000 (some e) (logs.map some) := by
          rw [Recent.map_push, hcalls, hentry]
      _ = (Recent.push 1000 e logs).map some := (Recent.map_push some).symm

/-- Two wrappers make two entries of the first call. -/
theorem not_exact_of_again (h : d.Inv) (hagain : 1 < d.executions) (hentry : c.entry = some e) :
    ¬ (d.call c).Exact := by
  intro hexact
  have hnone : d.calls = [] := h.again hagain
  obtain ⟨logs, hlogs, hcalls⟩ := h.exact (by omega)
  obtain rfl : logs = [] := by simpa [hnone] using hcalls.symm
  obtain ⟨after, hafter, hone⟩ := hexact (show 0 < d.executions by omega)
  have hmade : (d.call c).calls = [c] := by
    change (if d.executions = 0 then [] else d.calls ++ [c]) = [c]
    rw [if_neg (by omega), hnone]
    rfl
  have hlength : after.length = 1 := by
    rw [hmade] at hone
    simpa [List.rtake] using (congrArg List.length hone).symm
  rw [call_logs h hlogs hentry] at hafter
  obtain rfl := Option.some.inj hafter
  rw [Recent.length_iterate_push (Nat.zero_le _), List.length_nil] at hlength
  omega

/-- Before the first execution nothing is logged and nothing has to be. -/
theorem Inv.call_before (h : d.Inv) (hzero : d.executions = 0) : (d.call c).Inv where
  wrapped := h.wrapped
  fresh _ := by
    obtain ⟨hlogs, _⟩ := h.fresh hzero
    refine ⟨?_, if_pos hzero⟩
    change (d.console c.level).call c d.logs = none
    rw [h.wrapped, hzero]
    exact hlogs
  again hagain := absurd hagain (by change ¬ 1 < d.executions; omega)
  exact hpos := absurd hpos (by change ¬ 0 < d.executions; omega)

theorem Inv.call_exact_iff (h : d.Inv) :
    (d.call c).Exact ↔ d.executions = 0 ∨ d.executions = 1 ∧ c.text.isSome := by
  by_cases hzero : d.executions = 0
  · exact iff_of_true (h.call_before hzero).exact (.inl hzero)
  · cases htext : c.text with
    | none =>
        refine iff_of_false (not_exact_of_text_none (by omega) htext) ?_
        simp [hzero]
    | some text =>
        have hentry : c.entry = some ⟨c.level, text, c.timestamp⟩ := by
          simp [ConsoleCall.entry, htext]
        by_cases hone : d.executions = 1
        · exact iff_of_true (call_exact_one h hone hentry) (.inr ⟨hone, rfl⟩)
        · refine iff_of_false (not_exact_of_again h (by omega) hentry) ?_
          simp [hzero, hone]

theorem Inv.call (h : d.Inv) (honce : d.executions = 0 ∨ d.executions = 1 ∧ c.text.isSome) :
    (d.call c).Inv := by
  cases honce with
  | inl hzero => exact h.call_before hzero
  | inr hone =>
      refine ⟨h.wrapped, ?_, ?_, h.call_exact_iff.mpr (.inr hone)⟩
      · intro hzero
        exact absurd (hone.1.symm.trans hzero) Nat.one_ne_zero
      · intro hagain
        exact absurd hone.1 (Nat.ne_of_gt hagain)

end ConsoleDocument

namespace ConsoleTab

variable {tab next : ConsoleTab} {navigation : FinishedNavigation}

theorem didFinishNavigation_document :
    (tab.didFinishNavigation navigation).document = tab.document := by
  unfold didFinishNavigation
  split
  · rfl
  · split
    · rfl
    · rfl

theorem commit_inv (h : tab.document.Inv) : (tab.commit navigation).document.Inv := by
  unfold commit
  split
  · exact ConsoleDocument.new_inv
  · exact h

theorem step_exact {event : ConsoleEvent} (h : tab.document.Inv)
    (hstep : tab.step event = some next) :
    (next.Exact ↔ tab.Once event) ∧ (tab.Once event → next.document.Inv) := by
  cases event with
  | navigate navigation =>
      obtain rfl := Option.some.inj hstep
      have hinv : ((tab.commit navigation).didFinishNavigation navigation).document.Inv := by
        rw [didFinishNavigation_document]
        exact commit_inv h
      exact ⟨iff_of_true hinv.exact trivial, fun _ => hinv⟩
  | execute =>
      simp only [step] at hstep
      split at hstep
      · cases hstep
      · obtain rfl := Option.some.inj hstep
        exact ⟨ConsoleDocument.capture_exact_iff, h.capture⟩
  | call c =>
      obtain rfl := Option.some.inj hstep
      exact ⟨h.call_exact_iff, h.call⟩

/-- In every run the log is exact in each state exactly when the script is not executed again after
a call that it was there to log, no call is made where it has been executed more than once, and each
call has a text. -/
theorem exact_iff {events : List ConsoleEvent} {last : ConsoleTab} :
    Exec (Through (Step step) Exact) start events last ↔
      Exec (Guarded (Step step) Once) start events last := by
  apply Exec.through_iff_guarded (J := fun tab => tab.document.Inv) ?_ ConsoleDocument.new_inv
  intro tab event next hinv hstep
  exact step_exact hinv hstep

def loaded : FinishedNavigation where
  isInPrimaryMainFrame := true
  hasCommitted := true
  hasRenderFrameHost := true
  isSameDocument := false

def logged (level : ConsoleLevel) (text : String) : ConsoleCall where
  level := level
  arguments := [.other (some text)]
  timestamp := 0

/-- A page logs, changes its fragment and logs again. -/
def fragmentChange : List ConsoleEvent :=
  [.navigate loaded, .execute, .call (logged .log "loaded"),
    .navigate { loaded with isSameDocument := true }, .execute, .call (logged .warn "moved")]

/-- The first call is lost and the second is there twice. -/
theorem fragmentChange_not_exact :
    ∃ last, Exec (Step step) start fragmentChange last ∧
      last.document.calls = [logged .log "loaded", logged .warn "moved"] ∧
      last.document.logs = some [⟨.warn, "moved", 0⟩, ⟨.warn, "moved", 0⟩] ∧ ¬ last.Exact := by
  refine ⟨_, .cons rfl (.cons rfl (.cons rfl (.cons rfl (.cons rfl (.cons rfl (.nil _)))))),
    rfl, by decide, ?_⟩
  intro h
  obtain ⟨logs, hlogs, hcalls⟩ := h (by decide)
  obtain rfl := Option.some.inj hlogs
  exact absurd hcalls (by decide)

end ConsoleTab

end Browserd
