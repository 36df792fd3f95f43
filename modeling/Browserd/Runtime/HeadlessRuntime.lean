import Browserd.Base.WebContents

/-!
# The headless runtime

`HeadlessRuntime` over the contents its browser context owns, in the order in which
`GetAllWebContents` enumerates them.
-/

namespace Browserd

structure HeadlessWebContents where
  address : Nat
  webContents : WebContents

/-- The context's contents, the raw pointer to the active tab, and whether
`HeadlessBrowser::Shutdown`, which destroys the context, has been called. -/
structure HeadlessRuntime where
  contents : List HeadlessWebContents
  activeWebContents : Option Nat
  isShutdown : Bool

/-- What `Build` makes of a URL: the new contents and the enumeration that includes them. -/
abbrev HeadlessBuilder := GURL → Option (HeadlessWebContents × List HeadlessWebContents)

namespace HeadlessRuntime

/-- The context owns no contents yet. -/
def new : HeadlessRuntime where
  contents := []
  activeWebContents := none
  isShutdown := false

/-- `StringPrintf("%p")` of a pointer that is not null. -/
def makeTargetId (contents : HeadlessWebContents) : String :=
  "0x" ++ String.ofList (Nat.toDigits 16 contents.address)

def findByTargetId (rt : HeadlessRuntime) (targetId : String) : Option HeadlessWebContents :=
  rt.contents.find? fun contents => makeTargetId contents == targetId

def getWebContentsByTargetId (rt : HeadlessRuntime) (targetId : String) : Option WebContents :=
  (rt.findByTargetId targetId).map HeadlessWebContents.webContents

def activeHeadlessWebContents (rt : HeadlessRuntime) : Option HeadlessWebContents :=
  match rt.activeWebContents with
  | none => none
  | some active => rt.contents.find? fun contents => contents.webContents.address == active

def allWebContents (rt : HeadlessRuntime) : List WebContents :=
  rt.contents.map HeadlessWebContents.webContents

def makeTabInfo (contents : HeadlessWebContents) : BrowserTabInfo where
  targetId := makeTargetId contents
  title := contents.webContents.title
  url := contents.webContents.lastCommittedURL.spec

def listTabs (rt : HeadlessRuntime) : List BrowserTabInfo :=
  rt.contents.map makeTabInfo

def createTab (build : HeadlessBuilder) (url : GURL) (rt : HeadlessRuntime) :
    HeadlessRuntime × Option BrowserTabInfo :=
  match build url with
  | none => (rt, none)
  | some (newContents, enumeration) =>
      ({ rt with
          contents := enumeration
          activeWebContents := some newContents.webContents.address },
        some (makeTabInfo newContents))

/-- `browser_->Shutdown()` destroys the context with its contents. -/
def shutdown (rt : HeadlessRuntime) : HeadlessRuntime :=
  { rt with contents := [], isShutdown := true }

def chooseFallbackActiveTab (closing : HeadlessWebContents) (rt : HeadlessRuntime) :
    HeadlessRuntime :=
  let fallback := rt.contents.find? fun contents => contents.address != closing.address
  { rt with activeWebContents := fallback.map fun contents => contents.webContents.address }

/-- `HeadlessWebContents::Close`: the context destroys the contents before it returns. -/
def closeContents (closing : HeadlessWebContents) (rt : HeadlessRuntime) : HeadlessRuntime :=
  { rt with contents := rt.contents.filter fun contents => contents.address != closing.address }

/-- The contents that `CloseTab` closes. -/
def closeTarget (rt : HeadlessRuntime) (targetId : Option String) : Option HeadlessWebContents :=
  match targetId with
  | some id => rt.findByTargetId id
  | none => rt.activeHeadlessWebContents

def closeTab (targetId : Option String) (rt : HeadlessRuntime) : HeadlessRuntime × Bool :=
  match rt.closeTarget targetId with
  | none => (rt, false)
  | some contents =>
      let rt := (rt.chooseFallbackActiveTab contents).closeContents contents
      (if rt.activeWebContents.isNone then rt.shutdown else rt, true)

end HeadlessRuntime

end Browserd
