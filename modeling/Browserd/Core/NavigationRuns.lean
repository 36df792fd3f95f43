import Browserd.Core.WaiterSteps

/-!
# Runs of a tab under a waiter

A tab and the waiter of one controller operation, driven by what happens to the tab. The ghost
field `committed` says whether the navigation that the operation started has itself committed as
a page in the primary main frame.
-/

namespace Browserd

namespace NavigationHandle

/-- The navigation replaces the document of the primary main frame. -/
def commits (handle : NavigationHandle) : Bool :=
  handle.isInPrimaryMainFrame && handle.hasCommitted

/-- It does so with a page that is not an error page. -/
def commitsPage (handle : NavigationHandle) : Bool :=
  handle.commits && !handle.isErrorPage

end NavigationHandle

/-- A navigation of the tab; `requested` marks the one started by the operation. -/
structure Navigation where
  handle : NavigationHandle
  requested : Bool

inductive TabEvent where
  | startLoading
  | finishNavigation (navigation : Navigation)
  | stopLoading
  | failLoad (isPrimaryMainFrame : Bool) (validatedUrl : GURL) (errorCode : Int32)
  | checkCurrentState
  | timeout
  | destroyed

namespace TabEvent

/-- The page after the event, as the observers see it. -/
def applyTo (page : WebContents) : TabEvent → WebContents
  | startLoading => { page with isLoading := true }
  | finishNavigation navigation =>
      if navigation.handle.commits then { page with lastCommittedURL := navigation.handle.url }
      else page
  | stopLoading => { page with isLoading := false }
  | _ => page

/-- What reaches the waiter; nothing observes the start of loading. -/
def waiterEvent (page : WebContents) : TabEvent → Option WaiterEvent
  | startLoading => none
  | finishNavigation navigation => some (.didFinishNavigation navigation.handle page)
  | stopLoading => some (.didStopLoading page)
  | failLoad isPrimaryMainFrame validatedUrl errorCode =>
      some (.didFailLoad isPrimaryMainFrame validatedUrl errorCode)
  | checkCurrentState => some (.checkCurrentState page)
  | timeout => some .timeout
  | destroyed => some .webContentsDestroyed

/-- The event is the commit of the operation's own navigation. -/
def commitsRequested : TabEvent → Bool
  | finishNavigation navigation => navigation.requested && navigation.handle.commitsPage
  | _ => false

end TabEvent

/-- `statuses` are the statuses passed to the callback so far. -/
structure WaitingTab where
  page : WebContents
  waiter : Waiter
  committed : Bool
  statuses : List BrowserStatus

namespace WaitingTab

def start (page : WebContents) (waiter : Waiter) : WaitingTab := ⟨page, waiter, false, []⟩

def step (chromium : Chromium) (tab : WaitingTab) (event : TabEvent) : WaitingTab :=
  let page := event.applyTo tab.page
  let (waiter, status) :=
    match event.waiterEvent page with
    | some waiterEvent => tab.waiter.deliver chromium waiterEvent
    | none => (tab.waiter, none)
  { page := page
    waiter := waiter
    committed := tab.committed || event.commitsRequested
    statuses := tab.statuses ++ status.toList }

def run (chromium : Chromium) (tab : WaitingTab) (events : List TabEvent) : WaitingTab :=
  events.foldl (step chromium) tab

@[simp] theorem step_page (chromium : Chromium) (tab : WaitingTab) (event : TabEvent) :
    (tab.step chromium event).page = event.applyTo tab.page := rfl

@[simp] theorem step_committed (chromium : Chromium) (tab : WaitingTab) (event : TabEvent) :
    (tab.step chromium event).committed = (tab.committed || event.commitsRequested) := rfl

@[simp] theorem run_nil (chromium : Chromium) (tab : WaitingTab) : tab.run chromium [] = tab := rfl

@[simp] theorem run_cons (chromium : Chromium) (tab : WaitingTab) (event : TabEvent)
    (events : List TabEvent) :
    tab.run chromium (event :: events) = (tab.step chromium event).run chromium events := rfl

@[simp] theorem run_append (chromium : Chromium) (tab : WaitingTab)
    (events later : List TabEvent) :
    tab.run chromium (events ++ later) = (tab.run chromium events).run chromium later :=
  List.foldl_append

/-- What every event keeps, a run keeps. -/
theorem run_invariant {chromium : Chromium} {I : WaitingTab → Prop} (events : List TabEvent)
    (hstep : ∀ tab event, event ∈ events → I tab → I (tab.step chromium event)) {tab : WaitingTab}
    (htab : I tab) : I (tab.run chromium events) := by
  induction events generalizing tab with
  | nil => exact htab
  | cons event events ih =>
      refine ih (fun tab event hevent => hstep tab event (List.mem_cons_of_mem _ hevent)) ?_
      exact hstep tab event (List.mem_cons_self ..) htab

end WaitingTab

end Browserd
