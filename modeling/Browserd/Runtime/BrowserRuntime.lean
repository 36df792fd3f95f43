import Browserd.Runtime.GuiRuntime
import Browserd.Runtime.HeadlessRuntime

/-!
# The runtime interface

The part of `BrowserRuntime` that the controller uses.
-/

namespace Browserd

/-- `Builder` is what Chromium contributes to the creation of a tab. -/
class BrowserRuntime (ρ : Type) where
  Builder : Type
  activeWebContents : ρ → Option WebContents
  getWebContentsByTargetId : ρ → String → Option WebContents
  allWebContents : ρ → List WebContents
  listTabs : ρ → List BrowserTabInfo
  createTab : Builder → GURL → ρ → ρ × Option BrowserTabInfo
  closeTab : Option String → ρ → ρ × Bool

instance : BrowserRuntime HeadlessRuntime where
  Builder := HeadlessBuilder
  activeWebContents rt := rt.activeHeadlessWebContents.map HeadlessWebContents.webContents
  getWebContentsByTargetId := HeadlessRuntime.getWebContentsByTargetId
  allWebContents := HeadlessRuntime.allWebContents
  listTabs := HeadlessRuntime.listTabs
  createTab := HeadlessRuntime.createTab
  closeTab := HeadlessRuntime.closeTab

instance : BrowserRuntime GuiRuntime where
  Builder := GuiBuilder
  activeWebContents := GuiRuntime.activeWebContents
  getWebContentsByTargetId := GuiRuntime.getWebContentsByTargetId
  allWebContents := GuiRuntime.allWebContents
  listTabs := GuiRuntime.listTabs
  createTab := GuiRuntime.createTab
  closeTab := GuiRuntime.closeTab

end Browserd
