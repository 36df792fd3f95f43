import Browserd.Core.BrowserController

/-!
# Cookies

The cookie operations of the controller, over a cookie manager that answers each request with what
it finds in its store. The manager belongs to Chromium and is a parameter;
`CookieManager.Documented` collects what the operations rely on.
-/

namespace Browserd

/-- What is read of a `net::CanonicalCookie`; `expiryDate` has the bits of the seconds, and is none
where the time is null. -/
structure CanonicalCookie where
  name : String
  value : String
  domain : String
  path : String
  isSecure : Bool
  isHttpOnly : Bool
  expiryDate : Option UInt64
  deriving DecidableEq

structure CookieInfo where
  name : String
  value : String
  domain : String
  path : String
  secure : Bool
  httpOnly : Bool
  expiresUnixSeconds : UInt64
  deriving DecidableEq

def toCookieInfo (cookie : CanonicalCookie) : CookieInfo where
  name := cookie.name
  value := cookie.value
  domain := cookie.domain
  path := cookie.path
  secure := cookie.isSecure
  httpOnly := cookie.isHttpOnly
  expiresUnixSeconds := cookie.expiryDate.getD 0

structure CookieListOptions where
  url : Option String

structure CookieGetOptions where
  name : String

structure CookieSetOptions where
  name : String
  value : String
  domain : Option String
  path : Option String
  url : Option String
  secure : Bool
  httpOnly : Bool

structure CookieDeleteOptions where
  name : String
  url : Option String
  domain : Option String

/-- `network::mojom::CookieDeletionFilter`; a criterion that is not set matches every cookie. -/
structure CookieDeletionFilter where
  cookieName : Option String
  url : Option GURL
  hostName : Option String

/-- The arguments of `CreateSanitizedCookie`, but for those that are the same in every call; times
are in microseconds. -/
structure CookieAttributes where
  url : GURL
  name : String
  value : String
  domain : String
  path : String
  creationTime : Int
  expirationTime : Int
  lastAccessTime : Int
  secure : Bool
  httpOnly : Bool

/-- The cookies of Chromium: the check of a new cookie, which cookies a URL and a host are those of,
and the requests of `network::mojom::CookieManager` on a store `κ`. A cookie is set if it is
included. -/
structure CookieManager (κ : Type) where
  createSanitizedCookie : CookieAttributes → Option CanonicalCookie
  matchesURL : GURL → CanonicalCookie → Bool
  matchesHost : String → CanonicalCookie → Bool
  getAllCookies : κ → List CanonicalCookie
  getCookieList : GURL → κ → List CanonicalCookie
  setCanonicalCookie : CanonicalCookie → GURL → κ → κ × Bool
  deleteCookies : CookieDeletionFilter → κ → κ × UInt32

namespace CookieManager

variable {κ : Type}

/-- A cookie is deleted if it meets all criteria of the filter. -/
def deletes (m : CookieManager κ) (filter : CookieDeletionFilter) (cookie : CanonicalCookie) :
    Bool :=
  filter.cookieName.all (fun name => name == cookie.name) &&
    filter.url.all (fun url => m.matchesURL url cookie) &&
    filter.hostName.all fun host => m.matchesHost host cookie

/-- A new cookie may push others out of the store. -/
structure Documented (m : CookieManager κ) : Prop where
  createSanitizedCookie_eq {attributes : CookieAttributes} {cookie : CanonicalCookie} :
    m.createSanitizedCookie attributes = some cookie →
      cookie.name = attributes.name ∧ cookie.value = attributes.value ∧
        cookie.isSecure = attributes.secure ∧ cookie.isHttpOnly = attributes.httpOnly
  getCookieList_subset (url : GURL) (store : κ) :
    m.getCookieList url store ⊆ m.getAllCookies store
  setCanonicalCookie_mem {cookie : CanonicalCookie} {url : GURL} {store : κ} :
    (m.setCanonicalCookie cookie url store).2 = true →
      cookie ∈ m.getAllCookies (m.setCanonicalCookie cookie url store).1
  setCanonicalCookie_subset (cookie : CanonicalCookie) (url : GURL) (store : κ) :
    m.getAllCookies (m.setCanonicalCookie cookie url store).1 ⊆ cookie :: m.getAllCookies store
  deleteCookies_eq (filter : CookieDeletionFilter) (store : κ) :
    m.getAllCookies (m.deleteCookies filter store).1 =
      (m.getAllCookies store).filter fun cookie => !m.deletes filter cookie

end CookieManager

/-- The kinds of callbacks that the operations take. -/
inductive CookieCallback where
  | cookies
  | cookie
  | status

/-- What is passed to a callback. -/
def CookieCallback.Argument : CookieCallback → Type
  | .cookies => BrowserResult (List CookieInfo)
  | .cookie => BrowserResult CookieInfo
  | .status => BrowserStatus

/-- An operation whose request is on its way to the cookie manager. -/
inductive CookieRequest : CookieCallback → Type where
  | listCookies (url : Option GURL) : CookieRequest .cookies
  | getCookie (name : String) : CookieRequest .cookie
  | setCookie (cookie : CanonicalCookie) (sourceUrl : GURL) : CookieRequest .status
  | deleteCookie (filter : CookieDeletionFilter) : CookieRequest .status
  | clearCookies : CookieRequest .status

/-- The callback that `GetCookie` gives to `ListCookies`: the first cookie of the name. -/
def cookieNamed (name : String) (result : BrowserResult (List CookieInfo)) :
    BrowserResult CookieInfo :=
  if !result.status.isOk then .error result.status.code result.status.message
  else
    match (result.value.getD []).find? fun cookie => cookie.name == name with
    | some cookie => .ok cookie
    | none => .error .notFound ("Cookie '" ++ name ++ "' not found")

namespace CookieRequest

variable {κ : Type}

/-- The request is carried out in the store, and its callback is given the answer. -/
def serve (m : CookieManager κ) (store : κ) {callback : CookieCallback} :
    CookieRequest callback → κ × callback.Argument
  | .listCookies (some url) => (store, .ok ((m.getCookieList url store).map toCookieInfo))
  | .listCookies none => (store, .ok ((m.getAllCookies store).map toCookieInfo))
  | .getCookie name =>
      (store, cookieNamed name (.ok ((m.getAllCookies store).map toCookieInfo)))
  | .setCookie cookie sourceUrl =>
      let (store, isInclude) := m.setCanonicalCookie cookie sourceUrl store
      (store, if isInclude then BrowserStatus.ok else .error .internalError "Failed to set cookie")
  | .deleteCookie filter =>
      let (store, deletedCount) := m.deleteCookies filter store
      (store, if 0 < deletedCount then BrowserStatus.ok else .error .notFound "Cookie not found")
  | .clearCookies => ((m.deleteCookies ⟨none, none, none⟩ store).1, BrowserStatus.ok)

theorem serve_deleteCookie (m : CookieManager κ) (store : κ) (filter : CookieDeletionFilter) :
    (CookieRequest.deleteCookie filter).serve m store =
      ((m.deleteCookies filter store).1,
        if 0 < (m.deleteCookies filter store).2 then BrowserStatus.ok
        else .error .notFound "Cookie not found") := rfl

end CookieRequest

/-- `base::Days(365)` in microseconds. -/
def cookieLifetime : Int := 365 * 24 * 60 * 60 * 1000000

namespace BrowserController

variable {ρ : Type} [BrowserRuntime ρ] {κ : Type}

/-- The operations find the tab and its cookie manager first; there is one where the tab has a
browser context. -/
def withCookieManager (rt : ρ) (targetId : Option String) (hasBrowserContext : Bool)
    {callback : CookieCallback}
    (next : WebContents → Except BrowserStatus (CookieRequest callback)) :
    Except BrowserStatus (CookieRequest callback) :=
  match resolveWebContents rt targetId with
  | none => .error (tabNotFound targetId)
  | some page =>
      if !hasBrowserContext then .error (.error .internalError "No cookie manager") else next page

def listCookies (chromium : Chromium) (rt : ρ) (targetId : Option String)
    (hasBrowserContext : Bool) (options : CookieListOptions) :
    Except BrowserStatus (CookieRequest .cookies) :=
  withCookieManager rt targetId hasBrowserContext fun _ =>
    .ok (.listCookies (options.url.map chromium.parseURL))

/-- `ListCookies` with no URL, and the callback that looks for the name. -/
def getCookie (rt : ρ) (targetId : Option String) (hasBrowserContext : Bool)
    (options : CookieGetOptions) : Except BrowserStatus (CookieRequest .cookie) :=
  withCookieManager rt targetId hasBrowserContext fun _ => .ok (.getCookie options.name)

def setCookie (chromium : Chromium) (m : CookieManager κ) (now : Int) (rt : ρ)
    (targetId : Option String) (hasBrowserContext : Bool) (options : CookieSetOptions) :
    Except BrowserStatus (CookieRequest .status) :=
  withCookieManager rt targetId hasBrowserContext fun page =>
    let sourceUrl := chromium.parseURL (options.url.getD page.lastCommittedURL.spec)
    match m.createSanitizedCookie
        { url := sourceUrl
          name := options.name
          value := options.value
          domain := options.domain.getD ""
          path := options.path.getD "/"
          creationTime := now
          expirationTime := now + cookieLifetime
          lastAccessTime := now
          secure := options.secure
          httpOnly := options.httpOnly } with
    | none => .error (.error .invalidArgument "Invalid cookie")
    | some cookie => .ok (.setCookie cookie sourceUrl)

def deleteCookie (chromium : Chromium) (rt : ρ) (targetId : Option String)
    (hasBrowserContext : Bool) (options : CookieDeleteOptions) :
    Except BrowserStatus (CookieRequest .status) :=
  withCookieManager rt targetId hasBrowserContext fun _ =>
    .ok (.deleteCookie
      { cookieName := some options.name
        url := options.url.map chromium.parseURL
        hostName := options.domain })

def clearCookies (rt : ρ) (targetId : Option String) (hasBrowserContext : Bool) :
    Except BrowserStatus (CookieRequest .status) :=
  withCookieManager rt targetId hasBrowserContext fun _ => .ok .clearCookies

end BrowserController

section Serving

variable {κ : Type} {m : CookieManager κ} {store : κ} {name : String}

/-- No cookie in the store has the name. -/
def CookieManager.Absent (m : CookieManager κ) (name : String) (store : κ) : Prop :=
  ∀ cookie ∈ m.getAllCookies store, cookie.name ≠ name

/-- The request sets no cookie of the name. -/
def CookieRequest.Spares (name : String) {callback : CookieCallback} :
    CookieRequest callback → Prop
  | .setCookie cookie _ => cookie.name ≠ name
  | _ => True

theorem cookieNamed_listed (name : String) (cookies : List CanonicalCookie) :
    cookieNamed name (.ok (cookies.map toCookieInfo)) =
      match cookies.find? fun cookie => cookie.name == name with
      | some cookie => .ok (toCookieInfo cookie)
      | none => .error .notFound ("Cookie '" ++ name ++ "' not found") := by
  have hname : ((fun info : CookieInfo => info.name == name) ∘ toCookieInfo) =
      fun cookie => cookie.name == name := rfl
  simp only [cookieNamed, BrowserResult.ok, BrowserStatus.isOk_ok, Bool.not_true,
    Bool.false_eq_true, if_false, Option.getD_some, List.find?_map, hname]
  cases cookies.find? fun cookie => cookie.name == name with
  | none => rfl
  | some cookie => rfl

theorem CookieManager.Absent.find?_eq_none (h : m.Absent name store) :
    (m.getAllCookies store).find? (fun cookie => cookie.name == name) = none := by
  rw [List.find?_eq_none]
  intro cookie hcookie
  simpa using h cookie hcookie

/-- Only a cookie of the name can end its absence. -/
theorem CookieManager.Absent.serve (hm : m.Documented) (h : m.Absent name store)
    {callback : CookieCallback} {request : CookieRequest callback}
    (hrequest : request.Spares name) :
    m.Absent name (request.serve m store).1 := by
  have hdelete (filter : CookieDeletionFilter) :
      m.Absent name (m.deleteCookies filter store).1 := by
    intro cookie hcookie
    rw [hm.deleteCookies_eq] at hcookie
    exact h cookie (List.mem_of_mem_filter hcookie)
  cases request with
  | listCookies url => cases url <;> exact h
  | getCookie other => exact h
  | setCookie cookie sourceUrl =>
      intro cookie' hcookie'
      rcases List.mem_cons.mp (hm.setCanonicalCookie_subset cookie sourceUrl store hcookie') with
        rfl | hmem
      · exact hrequest
      · exact h cookie' hmem
  | deleteCookie filter => exact hdelete filter
  | clearCookies => exact hdelete _

/-- After the deletion of a name on every URL and every host. -/
theorem CookieManager.absent_of_delete (hm : m.Documented) (name : String) (store : κ) :
    m.Absent name (m.deleteCookies ⟨some name, none, none⟩ store).1 := by
  intro cookie hcookie
  rw [hm.deleteCookies_eq, List.mem_filter] at hcookie
  rintro rfl
  simp [CookieManager.deletes] at hcookie

theorem CookieManager.getAllCookies_of_clear (hm : m.Documented) (store : κ) :
    m.getAllCookies (m.deleteCookies ⟨none, none, none⟩ store).1 = [] := by
  rw [hm.deleteCookies_eq, List.filter_eq_nil_iff]
  simp [CookieManager.deletes]

/-- A deletion that finds none of its cookies. -/
theorem CookieManager.Absent.getAllCookies_delete (hm : m.Documented) (h : m.Absent name store)
    (url : Option GURL) (hostName : Option String) :
    m.getAllCookies (m.deleteCookies ⟨some name, url, hostName⟩ store).1 =
      m.getAllCookies store := by
  rw [hm.deleteCookies_eq, List.filter_eq_self]
  intro cookie hcookie
  have hne : name ≠ cookie.name := (h cookie hcookie).symm
  simp [CookieManager.deletes, hne]

/-- After a set that was accepted, the set cookie is the only one of a name that was absent. -/
theorem CookieManager.Absent.find?_set (hm : m.Documented) {cookie : CanonicalCookie}
    (h : m.Absent cookie.name store) {url : GURL}
    (hinclude : (m.setCanonicalCookie cookie url store).2 = true) :
    (m.getAllCookies (m.setCanonicalCookie cookie url store).1).find?
        (fun other => other.name == cookie.name) = some cookie := by
  have hmem := hm.setCanonicalCookie_mem hinclude
  have hsubset := hm.setCanonicalCookie_subset cookie url store
  cases hfind : (m.getAllCookies (m.setCanonicalCookie cookie url store).1).find?
      (fun other => other.name == cookie.name) with
  | none => simpa using List.find?_eq_none.mp hfind cookie hmem
  | some found =>
      have hname : found.name = cookie.name := by simpa using List.find?_some hfind
      rcases List.mem_cons.mp (hsubset (List.mem_of_find?_eq_some hfind)) with rfl | hold
      · rfl
      · exact absurd hname (h found hold)

end Serving

end Browserd
