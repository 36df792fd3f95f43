import Mathlib.Data.List.Basic

/-!
# Pages and URLs

What browserd reads of the objects Chromium owns.
-/

namespace Browserd

/-- A parsed `GURL`. -/
structure GURL where
  spec : String
  isValid : Bool
  scheme : String
  host : String
  deriving DecidableEq

namespace GURL

/-- `operator==` compares the specs. -/
instance : BEq GURL := ⟨fun a b => a.spec == b.spec⟩

def schemeIsHTTPOrHTTPS (url : GURL) : Bool :=
  url.scheme == "http" || url.scheme == "https"

def aboutBlank : GURL where
  spec := "about:blank"
  isValid := true
  scheme := "about"
  host := ""

end GURL

/-- A `content::WebContents`; its address is its identity. -/
structure WebContents where
  address : Nat
  title : String
  lastCommittedURL : GURL
  isLoading : Bool
  canGoBack : Bool
  canGoForward : Bool

structure BrowserTabInfo where
  targetId : String
  title : String
  url : String

end Browserd
