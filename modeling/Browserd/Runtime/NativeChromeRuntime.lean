import Browserd.Base.Strings
import Browserd.Runtime.BrowserRuntime

/-!
# The native Chrome runtime

`NativeChromeRuntime` owns no tab. It finds the tabs of Chrome's browser windows, which their user
changes as well, by their session ids. The keep-alives it holds are left out: no tab depends on
them.
-/

namespace Browserd

/-- `sessionId` is `SessionTabHelper::IdForTab`. A page with a `beforeUnload` handler is not closed
at once. -/
structure ChromeTab where
  webContents : WebContents
  sessionId : Int32
  lastCommittedEntry : Option GURL
  visibleURL : GURL
  beforeUnload : Bool

structure BrowserWindow where
  id : Nat
  tabs : List ChromeTab
  activeIndex : Option Nat

/-- The windows in the order of their activation, and the last active one. `nextActive` is the
choice of a tab strip that loses the tab at an index. -/
structure NativeChromeRuntime where
  windows : List BrowserWindow
  lastActive : Option Nat
  nextActive : BrowserWindow → Nat → Option Nat

/-- What Chrome contributes to a new tab: a profile, the window that `OpenEmptyWindow` opens and
the tab that `AddAndReturnTabAt` adds. -/
structure ChromeBuilder where
  profile : Bool
  openEmptyWindow : Option Nat
  addTab : GURL → Option ChromeTab

/-- `browser` and `index` are places among the windows and the tabs of one. -/
structure LocatedTab where
  browser : Nat
  webContents : WebContents
  index : Nat

namespace NativeChromeRuntime

def targetPrefix : String := "chrome-"

/-- `SessionID::is_valid`. -/
def isValidSessionId (id : Int32) : Bool := decide (0 < id)

def makeTargetId (tab : ChromeTab) : String :=
  if isValidSessionId tab.sessionId then targetPrefix ++ tab.sessionId.toInt.repr else ""

def parseTargetId (targetId : String) : Option Int32 :=
  if targetPrefix.toList.isPrefixOf targetId.toList then
    (stringToInt (String.ofList (targetId.toList.drop targetPrefix.length))).bind fun value =>
      if isValidSessionId (.ofInt value) then some (.ofInt value) else none
  else none

def makeTabInfo (tab : ChromeTab) : BrowserTabInfo where
  targetId := makeTargetId tab
  title := tab.webContents.title
  url := (tab.lastCommittedEntry.getD tab.visibleURL).spec

/-- The first tab of the session id, the windows searched in the order of their activation. -/
def locate (target : Int32) : List BrowserWindow → Option LocatedTab
  | [] => none
  | browser :: rest =>
      match browser.tabs.zipIdx.find? fun entry => entry.1.sessionId == target with
      | some (tab, index) => some ⟨0, tab.webContents, index⟩
      | none => (locate target rest).map fun located =>
          { located with browser := located.browser + 1 }

def findTabByTargetId (rt : NativeChromeRuntime) (targetId : String) : Option LocatedTab :=
  (parseTargetId targetId).bind fun target => locate target rt.windows

/-- The last active window, or else the first one. -/
def activeBrowserWindow (rt : NativeChromeRuntime) : Option Nat :=
  match rt.lastActive.bind fun id => rt.windows.findIdx? fun browser => browser.id == id with
  | some browser => some browser
  | none => if rt.windows.isEmpty then none else some 0

def tabs (rt : NativeChromeRuntime) : List ChromeTab := rt.windows.flatMap BrowserWindow.tabs

def activeWebContents (rt : NativeChromeRuntime) : Option WebContents :=
  match rt.activeBrowserWindow.bind fun i => rt.windows[i]? with
  | none => none
  | some browser => (browser.activeIndex.bind fun i => browser.tabs[i]?).map ChromeTab.webContents

def getWebContentsByTargetId (rt : NativeChromeRuntime) (targetId : String) : Option WebContents :=
  (rt.findTabByTargetId targetId).map LocatedTab.webContents

def allWebContents (rt : NativeChromeRuntime) : List WebContents :=
  rt.tabs.map ChromeTab.webContents

def listTabs (rt : NativeChromeRuntime) : List BrowserTabInfo := rt.tabs.map makeTabInfo

/-- `AddAndReturnTabAt` at the end of the window at `browser`, in the foreground, which
`ShowAndActivate` then activates. -/
def addTab (builder : ChromeBuilder) (url : GURL) (browser : Nat) (rt : NativeChromeRuntime) :
    NativeChromeRuntime × Option BrowserTabInfo :=
  match builder.addTab url with
  | none => (rt, none)
  | some tab =>
      ({ rt with
          windows := rt.windows.modify browser fun w =>
            { w with tabs := w.tabs ++ [tab], activeIndex := some w.tabs.length }
          lastActive := rt.windows[browser]?.map BrowserWindow.id },
        some (makeTabInfo tab))

def createTab (builder : ChromeBuilder) (url : GURL) (rt : NativeChromeRuntime) :
    NativeChromeRuntime × Option BrowserTabInfo :=
  match rt.activeBrowserWindow with
  | some browser => rt.addTab builder url browser
  | none =>
      if !builder.profile then (rt, none)
      else
        match builder.openEmptyWindow with
        | none => (rt, none)
        | some id => { rt with windows := ⟨id, [], none⟩ :: rt.windows }.addTab builder url 0

/-- `TabStripModel::CloseWebContentsAt`. -/
def closeWebContentsAt (browser index : Nat) (rt : NativeChromeRuntime) : NativeChromeRuntime :=
  { rt with
    windows := rt.windows.modify browser fun w =>
      if (w.tabs[index]?.map ChromeTab.beforeUnload).getD true then w
      else { w with tabs := w.tabs.eraseIdx index, activeIndex := rt.nextActive w index } }

/-- The window and the tab of it that `CloseTab` closes. -/
def closeTarget (rt : NativeChromeRuntime) (targetId : Option String) : Option (Nat × Nat) :=
  match targetId with
  | some id => (rt.findTabByTargetId id).map fun located => (located.browser, located.index)
  | none =>
      rt.activeBrowserWindow.bind fun browser =>
        (rt.windows[browser]?.bind BrowserWindow.activeIndex).map fun index => (browser, index)

def closeTab (targetId : Option String) (rt : NativeChromeRuntime) : NativeChromeRuntime × Bool :=
  match rt.closeTarget targetId with
  | none => (rt, false)
  | some (browser, index) =>
      if ((rt.windows[browser]?.map BrowserWindow.tabs).getD []).length ≤ index then (rt, false)
      else (rt.closeWebContentsAt browser index, true)

end NativeChromeRuntime

instance : BrowserRuntime NativeChromeRuntime where
  Builder := ChromeBuilder
  activeWebContents := NativeChromeRuntime.activeWebContents
  getWebContentsByTargetId := NativeChromeRuntime.getWebContentsByTargetId
  allWebContents := NativeChromeRuntime.allWebContents
  listTabs := NativeChromeRuntime.listTabs
  createTab := NativeChromeRuntime.createTab
  closeTab := NativeChromeRuntime.closeTab

end Browserd
