import Browserd.Core.Cookies
import Browserd.Core.NavigationCompleteness
import Browserd.MCP.Tools

/-!
# The cookie tools

What the five cookie tools read of their arguments, ask of the controller and answer, and what a
client can rely on from one call to the next while pages and other calls use the same store.
-/

namespace Browserd

namespace Tools

def boolText (b : Bool) : String := if b then "true" else "false"

def cookieLine (cookie : CookieInfo) : String :=
  cookie.name ++ "=" ++ cookie.value ++ " (domain=" ++ cookie.domain ++ ", path=" ++
    cookie.path ++ ")" ++ "\n"

def formatCookieList (result : BrowserResult (List CookieInfo)) : ToolResult :=
  if !result.status.isOk then (textContent result.status.message, true)
  else
    let cookies := result.value.getD []
    if cookies.isEmpty then (textContent "No cookies found", false)
    else (textContent (String.join (cookies.map cookieLine)), false)

def cookieText (cookie : CookieInfo) : String :=
  cookie.name ++ "=" ++ cookie.value ++ "\ndomain: " ++ cookie.domain ++ "\npath: " ++
    cookie.path ++ "\nsecure: " ++ boolText cookie.secure ++ "\nhttpOnly: " ++
    boolText cookie.httpOnly

/-- A cookie that is not found is no error. -/
def formatCookieGet (result : BrowserResult CookieInfo) : ToolResult :=
  match result.value with
  | some cookie =>
      if !result.status.isOk then
        (textContent result.status.message, !decide (result.status.code = .notFound))
      else (textContent (cookieText cookie), false)
  | none => (textContent result.status.message, !decide (result.status.code = .notFound))

/-- Nor is one that is not there to be deleted. -/
def completeDelete (cookieName : String) (status : BrowserStatus) : ToolResult :=
  if !status.isOk && !decide (status.code = .notFound) then (textContent status.message, true)
  else (textContent ("Cookie '" ++ cookieName ++ "' deleted"), false)

end Tools

/-- A call of a cookie tool whose request is on its way. -/
inductive CookieCall where
  | list (request : CookieRequest .cookies)
  | get (request : CookieRequest .cookie)
  | set (request : CookieRequest .status) (cookieName : String)
  | delete (request : CookieRequest .status) (cookieName : String)
  | clear (request : CookieRequest .status)

namespace CookieCall

variable {κ : Type}

def serve (m : CookieManager κ) (store : κ) : CookieCall → κ × ToolResult
  | .list request =>
      let (store, result) := request.serve m store
      (store, Tools.formatCookieList result)
  | .get request =>
      let (store, result) := request.serve m store
      (store, Tools.formatCookieGet result)
  | .set request cookieName =>
      let (store, status) := request.serve m store
      (store, Tools.completeStatus ("Cookie '" ++ cookieName ++ "' set") status)
  | .delete request cookieName =>
      let (store, status) := request.serve m store
      (store, Tools.completeDelete cookieName status)
  | .clear request =>
      let (store, status) := request.serve m store
      (store, Tools.completeStatus "All cookies cleared" status)

end CookieCall

/-- What a handler finds: the tabs, whether they have a browser context, and the time. -/
structure CookieSetting (ρ : Type) [BrowserRuntime ρ] where
  runtime : ρ
  hasBrowserContext : Bool
  now : Int

namespace Tools

variable {ρ : Type} [BrowserRuntime ρ] {κ : Type}

/-- The operation has been asked for, or has failed and been completed at once. -/
def startCookieCall {callback : CookieCallback}
    (started : Except BrowserStatus (CookieRequest callback))
    (completeError : BrowserStatus → ToolResult) (call : CookieRequest callback → CookieCall) :
    Except ToolResult CookieCall :=
  match started with
  | .error status => .error (completeError status)
  | .ok request => .ok (call request)

def handleCookieList (chromium : Chromium) (setting : CookieSetting ρ) (args : DictValue) :
    Except ToolResult CookieCall :=
  let list (options : CookieListOptions) :=
    startCookieCall
      (BrowserController.listCookies chromium setting.runtime none setting.hasBrowserContext
        options)
      (fun status => formatCookieList (.error status.code status.message)) .list
  match args.findString "url" with
  | none => list ⟨none⟩
  | some url =>
      if !(chromium.parseURL url).isValid then .error (textContent "Invalid URL", true)
      else list ⟨some url⟩

def handleCookieGet (setting : CookieSetting ρ) (args : DictValue) :
    Except ToolResult CookieCall :=
  match args.findString "name" with
  | none => .error (textContent "Missing required parameter: name", true)
  | some name =>
      startCookieCall
        (BrowserController.getCookie setting.runtime none setting.hasBrowserContext ⟨name⟩)
        (fun status => formatCookieGet (.error status.code status.message)) .get

def handleCookieSet (chromium : Chromium) (m : CookieManager κ) (setting : CookieSetting ρ)
    (args : DictValue) : Except ToolResult CookieCall :=
  match args.findString "name", args.findString "value" with
  | some name, some value =>
      startCookieCall
        (BrowserController.setCookie chromium m setting.now setting.runtime none
          setting.hasBrowserContext
          { name := name
            value := value
            domain := args.findString "domain"
            path := args.findString "path"
            url := args.findString "url"
            secure := (args.findBool "secure").getD false
            httpOnly := (args.findBool "httpOnly").getD false })
        (completeStatus ("Cookie '" ++ name ++ "' set")) (fun request => .set request name)
  | _, _ => .error (textContent "Missing required parameters: name, value", true)

def handleCookieDelete (chromium : Chromium) (setting : CookieSetting ρ) (args : DictValue) :
    Except ToolResult CookieCall :=
  match args.findString "name" with
  | none => .error (textContent "Missing required parameter: name", true)
  | some name =>
      startCookieCall
        (BrowserController.deleteCookie chromium setting.runtime none setting.hasBrowserContext
          ⟨name, args.findString "url", args.findString "domain"⟩)
        (completeDelete name) (fun request => .delete request name)

def handleCookieClear (setting : CookieSetting ρ) : Except ToolResult CookieCall :=
  startCookieCall
    (BrowserController.clearCookies setting.runtime none setting.hasBrowserContext)
    (completeStatus "All cookies cleared") .clear

end Tools

inductive CookieTool where
  | list
  | get
  | set
  | delete
  | clear

/-- A call of a tool, from its handler to its answer, or a change of the store by a page. -/
inductive CookieEvent (ρ κ : Type) [BrowserRuntime ρ] where
  | call (setting : CookieSetting ρ) (tool : CookieTool) (args : DictValue)
  | changed (store : κ)

namespace CookieTool

variable {ρ : Type} [BrowserRuntime ρ] {κ : Type}

def handle (chromium : Chromium) (m : CookieManager κ) (setting : CookieSetting ρ)
    (args : DictValue) : CookieTool → Except ToolResult CookieCall
  | .list => Tools.handleCookieList chromium setting args
  | .get => Tools.handleCookieGet setting args
  | .set => Tools.handleCookieSet chromium m setting args
  | .delete => Tools.handleCookieDelete chromium setting args
  | .clear => Tools.handleCookieClear setting

/-- The calls of a client are served one after the other. -/
def call (chromium : Chromium) (m : CookieManager κ) (setting : CookieSetting ρ)
    (args : DictValue) (store : κ) (tool : CookieTool) : κ × ToolResult :=
  match tool.handle chromium m setting args with
  | .error result => (store, result)
  | .ok call => call.serve m store

end CookieTool

namespace CookieEvent

variable {ρ : Type} [BrowserRuntime ρ] {κ : Type}

def run (chromium : Chromium) (m : CookieManager κ) (store : κ) : CookieEvent ρ κ → κ
  | .call setting tool args => (tool.call chromium m setting args store).1
  | .changed store => store

/-- The event sets no cookie of the name. -/
def Spares (m : CookieManager κ) (name : String) : CookieEvent ρ κ → Prop
  | .call _ .set args => args.findString "name" ≠ some name
  | .call _ _ _ => True
  | .changed store => m.Absent name store

/-- The event only looks at the cookies. -/
def Looks : CookieEvent ρ κ → Prop
  | .call _ .list _ => True
  | .call _ .get _ => True
  | _ => False

end CookieEvent

/-- The active tab is there, with a cookie manager. -/
structure CookieSetting.Ready {ρ : Type} [BrowserRuntime ρ] (setting : CookieSetting ρ) : Prop where
  tab : (BrowserController.resolveWebContents setting.runtime none).isSome = true
  hasBrowserContext : setting.hasBrowserContext = true

/-- The call takes every cookie of the name away. -/
inductive CookieTool.Removes (name : String) (args : DictValue) : CookieTool → Prop
  | delete (named : args.findString "name" = some name) (url : args.findString "url" = none)
      (domain : args.findString "domain" = none) : Removes name args .delete
  | clear : Removes name args .clear

section Calls

variable {ρ : Type} [BrowserRuntime ρ] {κ : Type} {m : CookieManager κ} {store : κ}
  {name : String} {setting : CookieSetting ρ} {args : DictValue} {tool : CookieTool}
  (chromium : Chromium)

/-- The request of a call sets no cookie of the name. -/
def CookieCall.Spares (name : String) : CookieCall → Prop
  | .set request _ => request.Spares name
  | .delete request _ => request.Spares name
  | .clear request => request.Spares name
  | _ => True

theorem Tools.startCookieCall_ok {callback : CookieCallback}
    {started : Except BrowserStatus (CookieRequest callback)}
    {completeError : BrowserStatus → ToolResult} {make : CookieRequest callback → CookieCall}
    {call : CookieCall} (h : startCookieCall started completeError make = .ok call) :
    ∃ request, started = .ok request ∧ call = make request := by
  cases started with
  | error status => cases h
  | ok request => exact ⟨request, rfl, (Except.ok.inj h).symm⟩

theorem BrowserController.withCookieManager_ok {targetId : Option String}
    {hasBrowserContext : Bool} {rt : ρ} {callback : CookieCallback}
    {next : WebContents → Except BrowserStatus (CookieRequest callback)}
    {request : CookieRequest callback}
    (h : withCookieManager rt targetId hasBrowserContext next = .ok request) :
    ∃ page, next page = .ok request := by
  rw [withCookieManager] at h
  split at h
  · cases h
  split at h
  · cases h
  · exact ⟨_, h⟩

/-- A call is served for the tab and the cookie manager that are there. -/
theorem BrowserController.withCookieManager_ready (h : setting.Ready) {callback : CookieCallback}
    (next : WebContents → Except BrowserStatus (CookieRequest callback)) :
    ∃ page, withCookieManager setting.runtime none setting.hasBrowserContext next = next page := by
  obtain ⟨page, hpage⟩ := Option.isSome_iff_exists.mp h.tab
  exact ⟨page, by simp [withCookieManager, hpage, h.hasBrowserContext]⟩

/-- The sanitized cookie is the one that the client gave, but for its domain, path and expiry. -/
theorem BrowserController.setCookie_ok (hm : m.Documented) {options : CookieSetOptions}
    {hasBrowserContext : Bool} {now : Int} {rt : ρ} {request : CookieRequest .status}
    (h : setCookie chromium m now rt none hasBrowserContext options = .ok request) :
    ∃ cookie sourceUrl, request = .setCookie cookie sourceUrl ∧ cookie.name = options.name ∧
      cookie.value = options.value ∧ cookie.isSecure = options.secure ∧
      cookie.isHttpOnly = options.httpOnly := by
  obtain ⟨page, hpage⟩ := withCookieManager_ok h
  simp only at hpage
  split at hpage
  · cases hpage
  · rename_i cookie hcookie
    exact ⟨cookie, _, (Except.ok.inj hpage).symm, hm.createSanitizedCookie_eq hcookie⟩

theorem Tools.handleCookieSet_ok (hm : m.Documented) {call : CookieCall}
    (h : handleCookieSet chromium m setting args = .ok call) :
    ∃ cookie sourceUrl, call = .set (.setCookie cookie sourceUrl) cookie.name ∧
      args.findString "name" = some cookie.name ∧
      args.findString "value" = some cookie.value ∧
      cookie.isSecure = (args.findBool "secure").getD false ∧
      cookie.isHttpOnly = (args.findBool "httpOnly").getD false := by
  rw [handleCookieSet] at h
  split at h
  · rename_i name value hname hvalue
    obtain ⟨request, hrequest, rfl⟩ := startCookieCall_ok h
    obtain ⟨cookie, sourceUrl, rfl, rfl, rfl, hsecure, hhttpOnly⟩ :=
      BrowserController.setCookie_ok chromium hm hrequest
    exact ⟨cookie, sourceUrl, rfl, hname, hvalue, hsecure, hhttpOnly⟩
  · cases h

theorem CookieTool.handle_spares (hm : m.Documented) {call : CookieCall}
    (hspares : (CookieEvent.call setting tool args : CookieEvent ρ κ).Spares m name)
    (h : tool.handle chromium m setting args = .ok call) : call.Spares name := by
  cases tool with
  | list =>
      simp only [handle, Tools.handleCookieList] at h
      split at h
      · obtain ⟨request, -, rfl⟩ := Tools.startCookieCall_ok h
        trivial
      split at h
      · cases h
      · obtain ⟨request, -, rfl⟩ := Tools.startCookieCall_ok h
        trivial
  | get =>
      simp only [handle, Tools.handleCookieGet] at h
      split at h
      · cases h
      · obtain ⟨request, -, rfl⟩ := Tools.startCookieCall_ok h
        trivial
  | set =>
      obtain ⟨cookie, sourceUrl, rfl, hname, -⟩ := Tools.handleCookieSet_ok chromium hm h
      rintro rfl
      exact hspares hname
  | delete =>
      simp only [handle, Tools.handleCookieDelete] at h
      split at h
      · cases h
      · obtain ⟨request, hrequest, rfl⟩ := Tools.startCookieCall_ok h
        obtain ⟨page, hpage⟩ := BrowserController.withCookieManager_ok hrequest
        obtain rfl := Except.ok.inj hpage
        trivial
  | clear =>
      obtain ⟨request, hrequest, rfl⟩ := Tools.startCookieCall_ok h
      obtain ⟨page, hpage⟩ := BrowserController.withCookieManager_ok hrequest
      obtain rfl := Except.ok.inj hpage
      trivial

/-- One event that sets no cookie of the name keeps it absent. -/
theorem CookieEvent.run_absent (hm : m.Documented) (h : m.Absent name store)
    {event : CookieEvent ρ κ} (hevent : event.Spares m name) :
    m.Absent name (event.run chromium m store) := by
  cases event with
  | changed store' => exact hevent
  | call setting tool args =>
      rw [run, CookieTool.call]
      split
      · exact h
      · rename_i call hcall
        have hspares := CookieTool.handle_spares chromium hm hevent hcall
        cases call with
        | list request =>
            cases request with
            | listCookies url =>
                have hurl : (CookieRequest.listCookies url).Spares name := trivial
                exact h.serve hm hurl
        | get request =>
            cases request with
            | getCookie other =>
                have hother : (CookieRequest.getCookie other).Spares name := trivial
                exact h.serve hm hother
        | set request cookieName => exact h.serve hm hspares
        | delete request cookieName => exact h.serve hm hspares
        | clear request => exact h.serve hm hspares

theorem CookieEvent.foldl_absent (hm : m.Documented) (events : List (CookieEvent ρ κ))
    (h : m.Absent name store) (hevents : ∀ event ∈ events, event.Spares m name) :
    m.Absent name (events.foldl (run chromium m) store) := by
  induction events generalizing store with
  | nil => exact h
  | cons event events ih =>
      have hfirst : m.Absent name (event.run chromium m store) :=
        event.run_absent chromium hm h (hevents event List.mem_cons_self)
      exact ih hfirst fun event' hevent' => hevents event' (List.mem_cons_of_mem event hevent')

/-- What a call that only looks finds is left as it is. -/
theorem CookieEvent.run_looks {event : CookieEvent ρ κ} (hevent : event.Looks) :
    event.run chromium m store = store := by
  cases event with
  | changed store' => exact hevent.elim
  | call setting tool args =>
      rw [run, CookieTool.call]
      split
      · rfl
      · rename_i call hcall
        cases tool with
        | list =>
            simp only [CookieTool.handle, Tools.handleCookieList] at hcall
            split at hcall
            · obtain ⟨request, -, rfl⟩ := Tools.startCookieCall_ok hcall
              cases request with
              | listCookies url => cases url <;> rfl
            split at hcall
            · cases hcall
            · obtain ⟨request, -, rfl⟩ := Tools.startCookieCall_ok hcall
              cases request with
              | listCookies url => cases url <;> rfl
        | get =>
            simp only [CookieTool.handle, Tools.handleCookieGet] at hcall
            split at hcall
            · cases hcall
            · obtain ⟨request, -, rfl⟩ := Tools.startCookieCall_ok hcall
              cases request with
              | getCookie other => rfl
        | set => exact hevent.elim
        | delete => exact hevent.elim
        | clear => exact hevent.elim

theorem CookieEvent.foldl_looks (events : List (CookieEvent ρ κ))
    (hevents : ∀ event ∈ events, event.Looks) :
    events.foldl (run chromium m) store = store := by
  induction events with
  | nil => rfl
  | cons event events ih =>
      rw [List.foldl_cons, run_looks chromium (hevents event List.mem_cons_self)]
      exact ih fun event' hevent' => hevents event' (List.mem_cons_of_mem event hevent')

theorem CookieTool.call_get_ready (hsetting : setting.Ready)
    (hname : args.findString "name" = some name) :
    CookieTool.get.call chromium m setting args store =
      (store, Tools.formatCookieGet
        (cookieNamed name (.ok ((m.getAllCookies store).map toCookieInfo)))) := by
  obtain ⟨page, hpage⟩ :=
    BrowserController.withCookieManager_ready hsetting fun _ => .ok (.getCookie name)
  simp only [call, handle, Tools.handleCookieGet, hname, BrowserController.getCookie, hpage,
    Tools.startCookieCall, CookieCall.serve, CookieRequest.serve]

/-- A deletion is answered in the same way whether there was a cookie or not. -/
theorem CookieTool.call_delete_ready (hsetting : setting.Ready)
    (hname : args.findString "name" = some name) :
    CookieTool.delete.call chromium m setting args store =
      ((m.deleteCookies ⟨some name, (args.findString "url").map chromium.parseURL,
          args.findString "domain"⟩ store).1,
        textContent ("Cookie '" ++ name ++ "' deleted"), false) := by
  obtain ⟨page, hpage⟩ :=
    BrowserController.withCookieManager_ready hsetting fun _ => .ok (.deleteCookie
      ⟨some name, (args.findString "url").map chromium.parseURL, args.findString "domain"⟩)
  simp only [call, handle, Tools.handleCookieDelete, hname, BrowserController.deleteCookie, hpage,
    Tools.startCookieCall, CookieCall.serve, CookieRequest.serve_deleteCookie]
  split
  · rfl
  · rfl

theorem CookieTool.call_clear_ready (hsetting : setting.Ready) :
    CookieTool.clear.call chromium m setting args store =
      ((m.deleteCookies ⟨none, none, none⟩ store).1, textContent "All cookies cleared", false) := by
  obtain ⟨page, hpage⟩ :=
    BrowserController.withCookieManager_ready hsetting fun _ => .ok .clearCookies
  simp only [call, handle, Tools.handleCookieClear, BrowserController.clearCookies, hpage,
    Tools.startCookieCall, CookieCall.serve, CookieRequest.serve]
  rfl

theorem CookieTool.Removes.absent (hm : m.Documented) (hsetting : setting.Ready)
    (h : tool.Removes name args) :
    m.Absent name (tool.call chromium m setting args store).1 := by
  cases h with
  | delete named url domain =>
      rw [call_delete_ready chromium hsetting named, url, domain]
      exact CookieManager.absent_of_delete hm name store
  | clear =>
      rw [call_clear_ready chromium hsetting]
      intro cookie hcookie
      rw [CookieManager.getAllCookies_of_clear hm] at hcookie
      cases hcookie

theorem Tools.handleCookieList_error {result : ToolResult}
    (h : handleCookieList chromium setting args = .error result) : result.2 = true := by
  have hlist (options : CookieListOptions)
      (hstart : startCookieCall
          (BrowserController.listCookies chromium setting.runtime none setting.hasBrowserContext
            options)
          (fun status => formatCookieList (.error status.code status.message)) .list =
        .error result) : result.2 = true := by
    rw [BrowserController.listCookies, BrowserController.withCookieManager] at hstart
    split at hstart
    · obtain rfl := Except.error.inj hstart
      rfl
    split at hstart
    · obtain rfl := Except.error.inj hstart
      rfl
    · cases hstart
  rw [handleCookieList] at h
  split at h
  · exact hlist _ h
  split at h
  · obtain rfl := Except.error.inj h
    rfl
  · exact hlist _ h

theorem Tools.handleCookieList_ok {call : CookieCall}
    (h : handleCookieList chromium setting args = .ok call) :
    ∃ url, call = .list (.listCookies url) := by
  rw [handleCookieList] at h
  split at h
  · obtain ⟨request, -, rfl⟩ := startCookieCall_ok h
    cases request with
    | listCookies url => exact ⟨url, rfl⟩
  split at h
  · cases h
  · obtain ⟨request, -, rfl⟩ := startCookieCall_ok h
    cases request with
    | listCookies url => exact ⟨url, rfl⟩

/-- A list that is no error lists cookies of the store. -/
theorem CookieTool.call_list_ok (hm : m.Documented)
    (h : (CookieTool.list.call chromium m setting args store).2.2 = false) :
    ∃ cookies ⊆ m.getAllCookies store,
      (CookieTool.list.call chromium m setting args store).2 =
        Tools.formatCookieList (.ok (cookies.map toCookieInfo)) := by
  rw [call] at h ⊢
  cases hhandle : CookieTool.list.handle chromium m setting args with
  | error result =>
      rw [hhandle] at h
      have herror : result.2 = true := Tools.handleCookieList_error chromium hhandle
      exact absurd (herror.symm.trans h) (by decide)
  | ok call =>
      obtain ⟨url, rfl⟩ := Tools.handleCookieList_ok chromium hhandle
      cases url with
      | none => exact ⟨m.getAllCookies store, List.Subset.refl _, rfl⟩
      | some url => exact ⟨m.getCookieList url store, hm.getCookieList_subset url store, rfl⟩

theorem Tools.handleCookieSet_error {result : ToolResult}
    (h : handleCookieSet chromium m setting args = .error result) : result.2 = true := by
  rw [handleCookieSet] at h
  split at h
  · rw [BrowserController.setCookie, BrowserController.withCookieManager] at h
    split at h
    · obtain rfl := Except.error.inj h
      rfl
    split at h
    · obtain rfl := Except.error.inj h
      rfl
    simp only at h
    split at h
    · obtain rfl := Except.error.inj h
      rfl
    · cases h
  · obtain rfl := Except.error.inj h
    rfl

/-- A set that is no error has put its cookie into the store. -/
theorem CookieTool.call_set_ok (hm : m.Documented)
    (h : (CookieTool.set.call chromium m setting args store).2.2 = false) :
    ∃ cookie sourceUrl, (m.setCanonicalCookie cookie sourceUrl store).2 = true ∧
      (CookieTool.set.call chromium m setting args store).1 =
        (m.setCanonicalCookie cookie sourceUrl store).1 ∧
      args.findString "name" = some cookie.name ∧ args.findString "value" = some cookie.value ∧
      cookie.isSecure = (args.findBool "secure").getD false ∧
      cookie.isHttpOnly = (args.findBool "httpOnly").getD false := by
  rw [call] at h ⊢
  cases hhandle : CookieTool.set.handle chromium m setting args with
  | error result =>
      rw [hhandle] at h
      have herror : result.2 = true := Tools.handleCookieSet_error chromium hhandle
      exact absurd (herror.symm.trans h) (by decide)
  | ok call =>
      obtain ⟨cookie, sourceUrl, rfl, hasked⟩ := Tools.handleCookieSet_ok chromium hm hhandle
      rw [hhandle] at h
      cases hinclude : (m.setCanonicalCookie cookie sourceUrl store).2 with
      | true => exact ⟨cookie, sourceUrl, hinclude, rfl, hasked⟩
      | false =>
          have hfailed : (Tools.completeStatus ("Cookie '" ++ cookie.name ++ "' set")
              (if (m.setCanonicalCookie cookie sourceUrl store).2 then BrowserStatus.ok
                else .error .internalError "Failed to set cookie")).2 = false := h
          rw [hinclude] at hfailed
          exact absurd (show true = false from hfailed) (by decide)

/-- Once every cookie of a name is removed, and until one is set, no client and no page can bring it
back into an answer. -/
theorem cookieTools_absentUntilSet (hm : m.Documented) (hsetting : setting.Ready)
    (hremoves : tool.Removes name args) (events : List (CookieEvent ρ κ))
    (hevents : ∀ event ∈ events, event.Spares m name) {later : κ}
    (hlater : later =
      events.foldl (CookieEvent.run chromium m) (tool.call chromium m setting args store).1) :
    (∀ (reader : CookieSetting ρ) (readArgs : DictValue), reader.Ready →
        readArgs.findString "name" = some name →
        CookieTool.get.call chromium m reader readArgs later =
          (later, textContent ("Cookie '" ++ name ++ "' not found"), false)) ∧
      (∀ (reader : CookieSetting ρ) (listArgs : DictValue),
        (CookieTool.list.call chromium m reader listArgs later).2.2 = false →
        ∃ cookies : List CookieInfo, (∀ cookie ∈ cookies, cookie.name ≠ name) ∧
          (CookieTool.list.call chromium m reader listArgs later).2 =
            Tools.formatCookieList (.ok cookies)) ∧
      ∀ (eraser : CookieSetting ρ) (deleteArgs : DictValue), eraser.Ready →
        deleteArgs.findString "name" = some name →
        m.getAllCookies (CookieTool.delete.call chromium m eraser deleteArgs later).1 =
            m.getAllCookies later ∧
          (CookieTool.delete.call chromium m eraser deleteArgs later).2 =
            (textContent ("Cookie '" ++ name ++ "' deleted"), false) := by
  have habsent : m.Absent name later := by
    rw [hlater]
    exact CookieEvent.foldl_absent chromium hm events (hremoves.absent chromium hm hsetting) hevents
  constructor
  · intro reader readArgs hready hname
    rw [CookieTool.call_get_ready chromium hready hname, cookieNamed_listed,
      habsent.find?_eq_none]
    rfl
  constructor
  · intro reader listArgs hok
    obtain ⟨cookies, hsubset, hlisted⟩ := CookieTool.call_list_ok chromium hm hok
    refine ⟨cookies.map toCookieInfo, ?_, hlisted⟩
    intro info hinfo
    obtain ⟨cookie, hcookie, rfl⟩ := List.mem_map.mp hinfo
    exact habsent cookie (hsubset hcookie)
  · intro eraser deleteArgs hready hname
    rw [CookieTool.call_delete_ready chromium hready hname]
    exact ⟨habsent.getAllCookies_delete hm _ _, rfl⟩

/-- A cookie that a client has set is the one that it gets, if no other cookie of the name was
there. -/
theorem cookieTools_readAfterSet (hm : m.Documented) (habsent : m.Absent name store)
    (hname : args.findString "name" = some name)
    (haccepted : (CookieTool.set.call chromium m setting args store).2.2 = false)
    (events : List (CookieEvent ρ κ)) (hevents : ∀ event ∈ events, event.Looks)
    {reader : CookieSetting ρ} {readArgs : DictValue} (hready : reader.Ready)
    (hread : readArgs.findString "name" = some name) :
    ∃ cookie : CookieInfo, cookie.name = name ∧
      args.findString "value" = some cookie.value ∧
      cookie.secure = (args.findBool "secure").getD false ∧
      cookie.httpOnly = (args.findBool "httpOnly").getD false ∧
      (CookieTool.get.call chromium m reader readArgs
          (events.foldl (CookieEvent.run chromium m)
            (CookieTool.set.call chromium m setting args store).1)).2 =
        (textContent (Tools.cookieText cookie), false) := by
  rw [CookieEvent.foldl_looks chromium events hevents,
    CookieTool.call_get_ready chromium hready hread, cookieNamed_listed]
  obtain ⟨cookie, sourceUrl, hinclude, hstore, hnamed, hvalue, hsecure, hhttpOnly⟩ :=
    CookieTool.call_set_ok chromium hm haccepted
  obtain rfl : name = cookie.name := Option.some.inj (hname.symm.trans hnamed)
  rw [hstore, habsent.find?_set hm hinclude]
  exact ⟨toCookieInfo cookie, rfl, hvalue, hsecure, hhttpOnly, rfl⟩

end Calls

def shopDeletes (filter : CookieDeletionFilter) (cookie : CanonicalCookie) : Bool :=
  filter.cookieName.all (fun name => name == cookie.name) &&
    filter.url.all (fun url => url.host == cookie.domain) &&
    filter.hostName.all fun host => host == cookie.domain

/-- A cookie manager that keeps its cookies in a list, one of each name. -/
def shopCookies : CookieManager (List CanonicalCookie) where
  createSanitizedCookie attributes := some
    { name := attributes.name
      value := attributes.value
      domain := attributes.url.host
      path := attributes.path
      isSecure := attributes.secure
      isHttpOnly := attributes.httpOnly
      expiryDate := none }
  matchesURL url cookie := url.host == cookie.domain
  matchesHost host cookie := host == cookie.domain
  getAllCookies store := store
  getCookieList url store := store.filter fun cookie => url.host == cookie.domain
  setCanonicalCookie cookie _ store :=
    (cookie :: store.filter fun other => !decide (other.name = cookie.name), true)
  deleteCookies filter store :=
    (store.filter fun cookie => !shopDeletes filter cookie,
      UInt32.ofNat (store.countP (shopDeletes filter)))

theorem shopCookies_documented : shopCookies.Documented where
  createSanitizedCookie_eq h := by
    obtain rfl := Option.some.inj h
    exact ⟨rfl, rfl, rfl, rfl⟩
  getCookieList_subset url store := List.filter_sublist.subset
  setCanonicalCookie_mem _ := List.mem_cons_self
  setCanonicalCookie_subset cookie url store :=
    List.cons_subset_cons cookie List.filter_sublist.subset
  deleteCookies_eq filter store := rfl

def shopSetting : CookieSetting HeadlessRuntime := ⟨shopRuntime, true, 0⟩

def sessionCookie : CanonicalCookie := ⟨"sid", "7", "shop.test", "/", true, true, none⟩

def clearedEvents : List (CookieEvent HeadlessRuntime (List CanonicalCookie)) :=
  [.call shopSetting .set [("name", .string "theme"), ("value", .string "dark")],
    .call shopSetting .list []]

theorem cookieTools_absentUntilSet_sample :
    CookieTool.get.call shopChromium shopCookies shopSetting [("name", .string "sid")]
        (clearedEvents.foldl (CookieEvent.run shopChromium shopCookies)
          (CookieTool.clear.call shopChromium shopCookies shopSetting [] [sessionCookie]).1) =
      (clearedEvents.foldl (CookieEvent.run shopChromium shopCookies)
          (CookieTool.clear.call shopChromium shopCookies shopSetting [] [sessionCookie]).1,
        textContent "Cookie 'sid' not found", false) := by
  have hready : shopSetting.Ready := ⟨rfl, rfl⟩
  have hspares : ∀ event ∈ clearedEvents, event.Spares shopCookies "sid" := by
    simp [clearedEvents, CookieEvent.Spares, DictValue.findString, DictValue.find]
  exact (cookieTools_absentUntilSet shopChromium shopCookies_documented hready .clear clearedEvents
    hspares rfl).1 shopSetting _ hready rfl

def sidArgs : DictValue :=
  [("name", .string "sid"), ("value", .string "8"), ("secure", .boolean true)]

def themeCookie : CanonicalCookie := ⟨"theme", "dark", "shop.test", "/", false, false, none⟩

/-- The cookies are listed, another one is read, and one is asked for that is not there. -/
def lookingEvents : List (CookieEvent HeadlessRuntime (List CanonicalCookie)) :=
  [.call shopSetting .list [], .call shopSetting .get [("name", .string "theme")],
    .call shopSetting .get [("name", .string "lang")]]

theorem cookieTools_readAfterSet_sample :
    ∃ cookie : CookieInfo, cookie.name = "sid" ∧ some "8" = some cookie.value ∧
      cookie.secure = true ∧ cookie.httpOnly = false ∧
      (CookieTool.get.call shopChromium shopCookies shopSetting [("name", .string "sid")]
          (lookingEvents.foldl (CookieEvent.run shopChromium shopCookies)
            (CookieTool.set.call shopChromium shopCookies shopSetting
              sidArgs [themeCookie]).1)).2 =
        (textContent (Tools.cookieText cookie), false) := by
  have hready : shopSetting.Ready := ⟨rfl, rfl⟩
  have habsent : shopCookies.Absent "sid" [themeCookie] := by
    intro cookie hcookie
    obtain rfl := List.mem_singleton.mp hcookie
    decide
  have haccepted : (CookieTool.set.call shopChromium shopCookies shopSetting sidArgs
      [themeCookie]).2.2 = false := rfl
  have hread : DictValue.findString [("name", .string "sid")] "name" = some "sid" := rfl
  have hlooks : ∀ event ∈ lookingEvents, event.Looks := by
    simp [lookingEvents, CookieEvent.Looks]
  exact cookieTools_readAfterSet shopChromium shopCookies_documented habsent rfl haccepted
    lookingEvents hlooks hready hread

end Browserd
