import Browserd.Base.Values
import Browserd.Base.WebContents

/-!
# Statuses of controller operations
-/

namespace Browserd

inductive BrowserStatusCode where
  | ok
  | invalidArgument
  | sessionNotReady
  | tabNotFound
  | noActiveFrame
  | navigationFailed
  | screenshotFailed
  | internalError
  | timeout
  | notFound
  deriving DecidableEq

structure BrowserStatus where
  code : BrowserStatusCode
  message : String
  deriving DecidableEq

namespace BrowserStatus

def isOk (status : BrowserStatus) : Bool := status.code = .ok

def ok : BrowserStatus := ⟨.ok, ""⟩

def error (code : BrowserStatusCode) (message : String) : BrowserStatus := ⟨code, message⟩

@[simp] theorem isOk_ok : ok.isOk = true := rfl

@[simp] theorem isOk_error (code : BrowserStatusCode) (message : String) :
    (error code message).isOk = decide (code = .ok) := rfl

end BrowserStatus

structure BrowserResult (α : Type*) where
  status : BrowserStatus
  value : Option α

namespace BrowserResult

variable {α : Type*}

def ok (value : α) : BrowserResult α := ⟨.ok, some value⟩

def error (code : BrowserStatusCode) (message : String) : BrowserResult α :=
  ⟨.error code message, none⟩

/-- There is a value exactly if the status is OK. -/
def Consistent (result : BrowserResult α) : Prop := result.value.isSome = result.status.isOk

theorem ok_consistent (value : α) : (ok value).Consistent := rfl

theorem error_consistent {code : BrowserStatusCode} (h : code ≠ .ok) (message : String) :
    (error code message : BrowserResult α).Consistent := by
  simp [Consistent, error, h]

/-- An error that is passed on. -/
theorem passed_consistent {status : BrowserStatus} (h : status.isOk = false) :
    (error status.code status.message : BrowserResult α).Consistent :=
  error_consistent (by simpa [BrowserStatus.isOk] using h) status.message

end BrowserResult

def tabNotFound (targetId : Option String) : BrowserStatus :=
  .error .tabNotFound
    (match targetId with
    | some id => "Tab not found: " ++ id
    | none => "No active tab")

/-- Pure functions of Chromium: the `GURL` constructor, `net::ErrorToString`, `JSONWriter::Write`
and `Base64Decode`. -/
structure Chromium where
  parseURL : String → GURL
  errorToString : Int32 → String
  writeJSON : Value → String
  base64Decode : String → Option (List UInt8)

end Browserd
