import Browserd.Base.WebContents

/-!
# The GUI runtime

`GuiRuntime` owns its tabs and keeps the active one by its id.
-/

namespace Browserd

structure RuntimeOptions where
  createInitialTab : Bool := true
  shutdownOnZeroTabs : Bool := true

/-- A tab and its window. `closeCallback` holds while the window may still run the callback
given to `SetCloseCallback`. -/
structure GuiTab where
  targetId : String
  webContents : WebContents
  closeCallback : Bool

/-- `pendingRemovals` are the posted `RemoveClosedWindow` tasks; `quits` counts the runs of the
quit callback. -/
structure GuiRuntime where
  options : RuntimeOptions
  tabs : List GuiTab
  activeTargetId : String
  nextTabId : UInt64
  quitCallback : Bool
  shutdownStarted : Bool
  pendingRemovals : List String
  quits : Nat

/-- What `WebContents::Create` makes for a URL, and whether `CreateGuiWindow` succeeds. -/
abbrev GuiBuilder := GURL → Option (WebContents × Bool)

namespace GuiRuntime

def findTab (rt : GuiRuntime) (targetId : String) : Option GuiTab :=
  rt.tabs.find? fun tab => tab.targetId == targetId

def activeTab (rt : GuiRuntime) : Option GuiTab := rt.findTab rt.activeTargetId

def activeWebContents (rt : GuiRuntime) : Option WebContents :=
  rt.activeTab.map GuiTab.webContents

def getWebContentsByTargetId (rt : GuiRuntime) (targetId : String) : Option WebContents :=
  (rt.findTab targetId).map GuiTab.webContents

def allWebContents (rt : GuiRuntime) : List WebContents := rt.tabs.map GuiTab.webContents

def makeTabInfo (tab : GuiTab) : BrowserTabInfo where
  targetId := tab.targetId
  title := tab.webContents.title
  url := tab.webContents.lastCommittedURL.spec

def listTabs (rt : GuiRuntime) : List BrowserTabInfo := rt.tabs.map makeTabInfo

/-- `"gui-" + NumberToString(id)`. -/
def makeTargetId (id : UInt64) : String := "gui-" ++ id.toNat.repr

def createTab (build : GuiBuilder) (url : GURL) (rt : GuiRuntime) :
    GuiRuntime × Option BrowserTabInfo :=
  match build url with
  | none => (rt, none)
  | some (webContents, hasWindow) =>
      let targetId := makeTargetId rt.nextTabId
      let rt := { rt with nextTabId := rt.nextTabId + 1 }
      if hasWindow then
        let tab : GuiTab := ⟨targetId, webContents, true⟩
        ({ rt with tabs := rt.tabs ++ [tab], activeTargetId := targetId }, some (makeTabInfo tab))
      else (rt, none)

def chooseFallbackActiveTab (rt : GuiRuntime) : GuiRuntime :=
  { rt with activeTargetId := (rt.tabs.head?.map GuiTab.targetId).getD "" }

def shutdown (rt : GuiRuntime) : GuiRuntime :=
  if rt.shutdownStarted then rt
  else
    { rt with
      shutdownStarted := true
      tabs := []
      activeTargetId := ""
      quits := if rt.quitCallback then rt.quits + 1 else rt.quits }

/-- `tabs_.erase(it)` of the tab found under `id`, and what follows it in both callers. -/
def eraseTab (id : String) (rt : GuiRuntime) : GuiRuntime :=
  let wasActive := rt.activeTargetId == id
  let rt := { rt with tabs := rt.tabs.eraseP fun tab => tab.targetId == id }
  let rt := if wasActive then rt.chooseFallbackActiveTab else rt
  if rt.tabs.isEmpty && rt.options.shutdownOnZeroTabs then rt.shutdown else rt

def closeTab (targetId : Option String) (rt : GuiRuntime) : GuiRuntime × Bool :=
  let id := targetId.getD rt.activeTargetId
  if id.isEmpty then (rt, false)
  else if (rt.findTab id).isNone then (rt, false)
  else (rt.eraseTab id, true)

/-- The window of a tab asks to be closed: its one-shot callback posts the removal. -/
def onWindowCloseRequested (targetId : String) (rt : GuiRuntime) : GuiRuntime :=
  match rt.findTab targetId with
  | none => rt
  | some tab =>
      if tab.closeCallback then
        { rt with
          tabs := rt.tabs.map fun tab =>
            if tab.targetId == targetId then { tab with closeCallback := false } else tab
          pendingRemovals := rt.pendingRemovals ++ [targetId] }
      else rt

def removeClosedWindow (targetId : String) (rt : GuiRuntime) : GuiRuntime :=
  if (rt.findTab targetId).isNone then rt else rt.eraseTab targetId

end GuiRuntime

end Browserd
