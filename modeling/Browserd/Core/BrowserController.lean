import Browserd.Core.Waiters
import Browserd.Runtime.BrowserRuntime

/-!
# Tab and navigation operations of the controller

The operations run on the browser's own sequence, so `RunOrPost` runs them at once. Each either
reports a result before it returns or leaves a waiter on a tab.
-/

namespace Browserd

/-- How far an operation got before it returned; `kept` is what the callback of its waiter binds. -/
inductive Started (α κ : Type*) where
  | reported (result : α)
  | waiting (page : WebContents) (waiter : Waiter) (kept : κ)

namespace BrowserController

variable {ρ : Type} [BrowserRuntime ρ]

def resolveWebContents (rt : ρ) (targetId : Option String) : Option WebContents :=
  match targetId with
  | some id =>
      if id.isEmpty then BrowserRuntime.activeWebContents rt
      else BrowserRuntime.getWebContentsByTargetId rt id
  | none => BrowserRuntime.activeWebContents rt

def listTabs (rt : ρ) : BrowserResult (List BrowserTabInfo) :=
  .ok (BrowserRuntime.listTabs rt)

def createTab (builder : BrowserRuntime.Builder ρ) (url : GURL) (rt : ρ) :
    ρ × Started (BrowserResult BrowserTabInfo) String :=
  if !url.isValid then (rt, .reported (.error .invalidArgument "Invalid URL"))
  else
    let (rt, tab) := BrowserRuntime.createTab builder url rt
    match tab with
    | none => (rt, .reported (.error .internalError "Failed to create tab"))
    | some tab =>
        if url.spec == "about:blank" then (rt, .reported (.ok tab))
        else
          match resolveWebContents rt (some tab.targetId) with
          | none => (rt, .reported (.error .tabNotFound "New tab web contents not found"))
          | some page =>
              (rt, .waiting page (.navigation (.start url)) tab.targetId)

/-- The callback that `CreateTab` gives to its waiter, bound to the id of the new tab. -/
def createdTab (targetId : String) (status : BrowserStatus) (rt : ρ) :
    BrowserResult BrowserTabInfo :=
  if !status.isOk then .error status.code status.message
  else
    match (BrowserRuntime.listTabs rt).find? fun tab => tab.targetId == targetId with
    | some tab => .ok tab
    | none => .error .tabNotFound ("Tab not found: " ++ targetId)

def closeTab (targetId : Option String) (rt : ρ) : ρ × BrowserStatus :=
  let (rt, closed) := BrowserRuntime.closeTab targetId rt
  (rt, if closed then .ok else tabNotFound targetId)

def navigate (targetId : Option String) (url : GURL) (rt : ρ) : Started BrowserStatus Unit :=
  if !url.isValid then .reported (.error .invalidArgument "Invalid URL")
  else
    match resolveWebContents rt targetId with
    | none => .reported (tabNotFound targetId)
    | some page => .waiting page (.navigation (.start url)) ()

def navigateBack (targetId : Option String) (rt : ρ) : BrowserStatus :=
  match resolveWebContents rt targetId with
  | none => tabNotFound targetId
  | some page => if !page.canGoBack then .error .notFound "Cannot go back" else .ok

def navigateForward (targetId : Option String) (rt : ρ) : BrowserStatus :=
  match resolveWebContents rt targetId with
  | none => tabNotFound targetId
  | some page => if !page.canGoForward then .error .notFound "Cannot go forward" else .ok

def reload (targetId : Option String) (rt : ρ) : Started BrowserStatus Unit :=
  match resolveWebContents rt targetId with
  | none => .reported (tabNotFound targetId)
  | some page => .waiting page (.reload .start) ()

section Waiters

variable {rt : ρ} {targetId : Option String} {targetUrl : GURL} {page : WebContents}
  {waiter : Waiter}

theorem navigate_waiter {kept : Unit}
    (h : navigate targetId targetUrl rt = .waiting page waiter kept) :
    waiter = .navigation (.start targetUrl) := by
  simp only [navigate] at h
  split at h
  · cases h
  split at h
  · cases h
  · cases h
    rfl

theorem createTab_waiter {builder : BrowserRuntime.Builder ρ} {kept : String}
    (h : (createTab builder targetUrl rt).2 = .waiting page waiter kept) :
    waiter = .navigation (.start targetUrl) := by
  simp only [createTab] at h
  split at h
  · cases h
  split at h
  · cases h
  split at h
  · cases h
  split at h
  · cases h
  · cases h
    rfl

theorem reload_waiter {kept : Unit} (h : reload targetId rt = .waiting page waiter kept) :
    waiter = .reload .start := by
  simp only [reload] at h
  split at h
  · cases h
  · cases h
    rfl

end Waiters

end BrowserController

end Browserd
