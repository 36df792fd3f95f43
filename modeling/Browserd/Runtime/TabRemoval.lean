import Browserd.Runtime.GuiRuntime

/-!
# The removal of a tab, step by step

`CloseTab` and `RemoveClosedWindow` erase an element of `tabs_`. The window in it is destroyed in
the middle of the erasure, and with it its `WebContents`, whose observers complete the waiters
pending on it: host code runs there, and may call `browserd_shutdown` on the same runtime.
-/

namespace Browserd

/-- An element of `tabs_`. A window goes by the place of its tab when the call began; `none` is
the null pointer that a move or a reset leaves. -/
structure TabSlot where
  targetId : String
  window : Option Nat
  deriving DecidableEq

/-- What the host does in a completion callback: the other operations of the C API only post a
task. -/
inductive HostCallback where
  | returns
  | callsShutdown
  deriving DecidableEq

/-- What happens in a call, in order. A `callback` has the members that it finds. -/
inductive ClosingEvent where
  | windowClosed (window : Nat)
  | windowDestroyed (window : Nat)
  | callback (tabs : List TabSlot) (activeTargetId : String)
  deriving DecidableEq

/-- The runtime and its session in the middle of a call. `destroyed` holds once the controller has
taken the runtime with it, `faulted` once the code has used what is no longer there. -/
structure GuiCall where
  options : RuntimeOptions
  tabs : List TabSlot
  activeTargetId : String
  quitCallback : Bool
  shutdownStarted : Bool
  quits : Nat
  sessionShuttingDown : Bool
  destroyed : Bool
  faulted : Bool
  log : List ClosingEvent

namespace GuiCall

def ofRuntime (rt : GuiRuntime) (sessionShuttingDown : Bool) : GuiCall where
  options := rt.options
  tabs := rt.tabs.mapIdx fun window tab => ⟨tab.targetId, some window⟩
  activeTargetId := rt.activeTargetId
  quitCallback := rt.quitCallback
  shutdownStarted := rt.shutdownStarted
  quits := rt.quits
  sessionShuttingDown := sessionShuttingDown
  destroyed := false
  faulted := false
  log := []

/-- Nothing runs after a fault. -/
def next (f : GuiCall → GuiCall) (s : GuiCall) : GuiCall := if s.faulted then s else f s

def fault (s : GuiCall) : GuiCall := { s with faulted := true }

def record (event : ClosingEvent) (s : GuiCall) : GuiCall := { s with log := s.log ++ [event] }

/-- `window->Close()`. -/
def closeWindow (window : Option Nat) (s : GuiCall) : GuiCall :=
  match window with
  | none => s.fault
  | some window => s.record (.windowClosed window)

/-- The callback of one waiter; `browserdShutdown` is what a call of `browserd_shutdown` does
there. -/
def runCallback (browserdShutdown : GuiCall → GuiCall) (callback : HostCallback) (s : GuiCall) :
    GuiCall :=
  let s := s.record (.callback s.tabs s.activeTargetId)
  match callback with
  | .returns => s
  | .callsShutdown => browserdShutdown s

section Operations

variable (browserdShutdown : GuiCall → GuiCall)

/-- `WebContentsDestroyed` of the waiters pending on a window, each of which completes. -/
def runCallbacks (callbacks : List HostCallback) (s : GuiCall) : GuiCall :=
  callbacks.foldl (fun s callback => s.next (runCallback browserdShutdown callback)) s

variable (callbacks : Nat → List HostCallback)

/-- The deletion of a `unique_ptr<GuiWindow>`. -/
def destroyWindow (window : Option Nat) (s : GuiCall) : GuiCall :=
  match window with
  | none => s
  | some window =>
      (s.record (.windowDestroyed window)).runCallbacks browserdShutdown (callbacks window)

/-- An element is destroyed in place: its pointer is null before its window is deleted. -/
def destroySlot (index : Nat) (s : GuiCall) : GuiCall :=
  match s.tabs[index]? with
  | none => s
  | some tab =>
      { s with tabs := s.tabs.set index { tab with window := none } }.destroyWindow
        browserdShutdown callbacks tab.window

/-- `tabs_.clear()` destroys the elements from the last to the first and moves the end after
that. -/
def clear (s : GuiCall) : GuiCall :=
  let s := (List.range s.tabs.length).reverse.foldl
    (fun s index => s.next (destroySlot browserdShutdown callbacks index)) s
  s.next fun s => { s with tabs := [] }

def shutdown (s : GuiCall) : GuiCall :=
  if s.shutdownStarted then s
  else
    let s := { s with shutdownStarted := true }
    let s := s.tabs.foldl (fun s tab => s.next (closeWindow tab.window)) s
    let s := s.next (clear browserdShutdown callbacks)
    s.next fun s =>
      { s with
        activeTargetId := ""
        quits := if s.quitCallback then s.quits + 1 else s.quits }

end Operations

section Removal

variable (callbacks : Nat → List HostCallback)

/-- `browserd_shutdown` on the UI thread, where a controller is there as long as the session is
not shutting down. The controller takes the runtime with it, and the tabs that were made after an
earlier `Shutdown`. A callback inside finds the session shutting down: its own call is `id`. -/
def browserdShutdown (s : GuiCall) : GuiCall :=
  if s.sessionShuttingDown then s
  else
    let s := { s with sessionShuttingDown := true }
    let s := s.shutdown id callbacks
    let s := s.next (clear id callbacks)
    s.next fun s => { s with destroyed := true }

/-- `tabs_.erase(it)`. The elements behind are move-assigned one place down: the first of these
moves puts the next tab in the slot and leaves an empty one, and only then deletes the window that
was there. The last element is destroyed in place, before the end moves. -/
def eraseAt (index : Nat) (s : GuiCall) : GuiCall :=
  match s.tabs[index]?, s.tabs[index + 1]? with
  | some tab, some following =>
      let s := { s with tabs := (s.tabs.set index following).set (index + 1) ⟨"", none⟩ }
      let s := s.destroyWindow (browserdShutdown callbacks) callbacks tab.window
      s.next fun s =>
        if s.destroyed then s.fault else { s with tabs := s.tabs.eraseIdx (index + 1) }
  | some _, none =>
      let s := s.destroySlot (browserdShutdown callbacks) callbacks index
      s.next fun s =>
        if s.destroyed then s.fault else { s with tabs := s.tabs.eraseIdx index }
  | none, _ => s

def chooseFallbackActiveTab (s : GuiCall) : GuiCall :=
  { s with activeTargetId := (s.tabs.head?.map TabSlot.targetId).getD "" }

def afterErase (wasActive : Bool) (s : GuiCall) : GuiCall :=
  let s := s.next fun s => if wasActive then s.chooseFallbackActiveTab else s
  s.next fun s =>
    if s.tabs.isEmpty && s.options.shutdownOnZeroTabs then
      s.shutdown (browserdShutdown callbacks) callbacks
    else s

/-- What `CloseTab` and `RemoveClosedWindow` do alike from `tabs_.erase(it)` on. -/
def removeAt (wasActive : Bool) (index : Nat) (s : GuiCall) : GuiCall :=
  (s.eraseAt callbacks index).afterErase callbacks wasActive

def findTab (targetId : String) (s : GuiCall) : Option Nat :=
  s.tabs.findIdx? fun tab => tab.targetId == targetId

/-- The pointer in the element at `index`. -/
def windowAt (index : Nat) (s : GuiCall) : Option Nat := s.tabs[index]?.bind TabSlot.window

def closeTab (targetId : Option String) (s : GuiCall) : GuiCall :=
  let id := targetId.getD s.activeTargetId
  if id.isEmpty then s
  else
    match s.findTab id with
    | none => s
    | some index =>
        let wasActive := s.activeTargetId == id
        let s := s.closeWindow (s.windowAt index)
        s.next (removeAt callbacks wasActive index)

def removeClosedWindow (targetId : String) (s : GuiCall) : GuiCall :=
  match s.findTab targetId with
  | none => s
  | some index => s.removeAt callbacks (s.activeTargetId == targetId) index

end Removal

end GuiCall

/-- The two calls that remove a tab. -/
inductive RemovalCall where
  | closeTab (targetId : Option String)
  | removeClosedWindow (targetId : String)

namespace RemovalCall

/-- A removal is posted by a window that the user closes: that is its one close. -/
def run (callbacks : Nat → List HostCallback) (s : GuiCall) : RemovalCall → GuiCall
  | closeTab targetId => s.closeTab callbacks targetId
  | removeClosedWindow targetId =>
      let s := match s.findTab targetId with
        | none => s
        | some index => s.closeWindow (s.windowAt index)
      s.removeClosedWindow callbacks targetId

/-- The same call between two steps of the runtime. -/
def after (rt : GuiRuntime) : RemovalCall → GuiRuntime
  | closeTab targetId => (rt.closeTab targetId).1
  | removeClosedWindow targetId => rt.removeClosedWindow targetId

/-- The id it looks for. -/
def targetId (rt : GuiRuntime) : RemovalCall → String
  | closeTab targetId => targetId.getD rt.activeTargetId
  | removeClosedWindow targetId => targetId

end RemovalCall

end Browserd
