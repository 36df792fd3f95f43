import Browserd.Core.BrowserResult
import Browserd.Lib.OneShot

/-!
# Navigation and reload waiters

The two observers that complete a navigation, a tab creation or a reload. A handler that runs the
callback returns the status it passes; the callback is one-shot.
-/

namespace Browserd

/-- What the waiters read of a `content::NavigationHandle`. -/
structure NavigationHandle where
  url : GURL
  isInPrimaryMainFrame : Bool
  hasCommitted : Bool
  isErrorPage : Bool
  netErrorCode : Int32

/-- `observing` is `web_contents() != nullptr`; `timeoutTimer` and `checkPosted` hold while the
timer runs and while the posted `CheckCurrentState` is due; `completion` is what `Complete` has
done. -/
structure NavigationWaiter where
  targetUrl : GURL
  observing : Bool
  callback : Bool
  timeoutTimer : Bool
  checkPosted : Bool
  seenRequestedNavigation : Bool
  completion : List (OneShot.CompletionStep BrowserStatus)

def isRequestedNavigation (targetUrl url : GURL) : Bool :=
  if !url.isValid || url.spec == "about:blank" then false
  else if url == targetUrl then true
  else if targetUrl.schemeIsHTTPOrHTTPS && url.schemeIsHTTPOrHTTPS &&
      url.host == targetUrl.host then true
  else false

namespace NavigationWaiter

def start (targetUrl : GURL) : NavigationWaiter where
  targetUrl := targetUrl
  observing := true
  callback := true
  timeoutTimer := true
  checkPosted := true
  seenRequestedNavigation := false
  completion := []

def complete (status : BrowserStatus) (w : NavigationWaiter) :
    NavigationWaiter × Option BrowserStatus :=
  if w.callback then
    ({ w with
        timeoutTimer := false
        observing := false
        callback := false
        completion := w.completion ++ [.ranCallback status, .postedDeletion] },
      some status)
  else (w, none)

def navigationFailed (chromium : Chromium) (netError : Int32) : BrowserStatus :=
  .error .navigationFailed ("Navigation failed: " ++ chromium.errorToString netError)

def didFinishNavigation (chromium : Chromium) (handle : NavigationHandle) (page : WebContents)
    (w : NavigationWaiter) : NavigationWaiter × Option BrowserStatus :=
  if !handle.isInPrimaryMainFrame || !handle.hasCommitted then (w, none)
  else if !isRequestedNavigation w.targetUrl handle.url then (w, none)
  else
    let w := { w with seenRequestedNavigation := true }
    if handle.isErrorPage then w.complete (navigationFailed chromium handle.netErrorCode)
    else if !w.observing || !page.isLoading then w.complete .ok
    else (w, none)

def didStopLoading (page : WebContents) (w : NavigationWaiter) :
    NavigationWaiter × Option BrowserStatus :=
  if !w.seenRequestedNavigation then
    if !w.observing || !isRequestedNavigation w.targetUrl page.lastCommittedURL then (w, none)
    else { w with seenRequestedNavigation := true }.complete .ok
  else w.complete .ok

def didFailLoad (chromium : Chromium) (isPrimaryMainFrame : Bool) (validatedUrl : GURL)
    (errorCode : Int32) (w : NavigationWaiter) : NavigationWaiter × Option BrowserStatus :=
  if w.observing && !isPrimaryMainFrame then (w, none)
  else if !isRequestedNavigation w.targetUrl validatedUrl then (w, none)
  else w.complete (navigationFailed chromium errorCode)

def webContentsDestroyed (w : NavigationWaiter) : NavigationWaiter × Option BrowserStatus :=
  w.complete (.error .tabNotFound "Tab closed during navigation")

def checkCurrentState (page : WebContents) (w : NavigationWaiter) :
    NavigationWaiter × Option BrowserStatus :=
  if !w.observing || !isRequestedNavigation w.targetUrl page.lastCommittedURL then (w, none)
  else
    let w := { w with seenRequestedNavigation := true }
    if !page.isLoading then w.complete .ok else (w, none)

def onTimeout (w : NavigationWaiter) : NavigationWaiter × Option BrowserStatus :=
  w.complete (.error .timeout "Navigation timed out")

end NavigationWaiter

/-- A reload waiter deletes itself when its tab stops loading; `observing` is false after that. -/
structure ReloadWaiter where
  observing : Bool
  callback : Bool

namespace ReloadWaiter

def start : ReloadWaiter := ⟨true, true⟩

def didStopLoading (w : ReloadWaiter) : ReloadWaiter × Option BrowserStatus :=
  (⟨false, false⟩, if w.callback then some .ok else none)

end ReloadWaiter

/-- What can reach a waiter, with the page its handler sees. -/
inductive WaiterEvent where
  | didFinishNavigation (handle : NavigationHandle) (page : WebContents)
  | didStopLoading (page : WebContents)
  | didFailLoad (isPrimaryMainFrame : Bool) (validatedUrl : GURL) (errorCode : Int32)
  | webContentsDestroyed
  | checkCurrentState (page : WebContents)
  | timeout

inductive Waiter where
  | navigation (waiter : NavigationWaiter)
  | reload (waiter : ReloadWaiter)

/-- Notifications reach a waiter while it observes its tab, the timer while it runs, and the posted
check once. -/
def NavigationWaiter.deliver (chromium : Chromium) (w : NavigationWaiter) :
    WaiterEvent → NavigationWaiter × Option BrowserStatus
  | .didFinishNavigation handle page =>
      if w.observing then w.didFinishNavigation chromium handle page else (w, none)
  | .didStopLoading page => if w.observing then w.didStopLoading page else (w, none)
  | .didFailLoad isPrimaryMainFrame validatedUrl errorCode =>
      if w.observing then w.didFailLoad chromium isPrimaryMainFrame validatedUrl errorCode
      else (w, none)
  | .webContentsDestroyed => if w.observing then w.webContentsDestroyed else (w, none)
  | .checkCurrentState page =>
      if w.checkPosted then { w with checkPosted := false }.checkCurrentState page else (w, none)
  | .timeout =>
      if w.timeoutTimer then { w with timeoutTimer := false }.onTimeout else (w, none)

/-- `ReloadWaiter` overrides `DidStopLoading` alone; the base class stops observing a tab that is
destroyed. -/
def ReloadWaiter.deliver (w : ReloadWaiter) : WaiterEvent → ReloadWaiter × Option BrowserStatus
  | .didStopLoading _ => if w.observing then w.didStopLoading else (w, none)
  | .webContentsDestroyed => ({ w with observing := false }, none)
  | _ => (w, none)

def Waiter.deliver (chromium : Chromium) (w : Waiter) (event : WaiterEvent) :
    Waiter × Option BrowserStatus :=
  match w with
  | .navigation w =>
      let (w, status) := w.deliver chromium event
      (.navigation w, status)
  | .reload w =>
      let (w, status) := w.deliver event
      (.reload w, status)

end Browserd
