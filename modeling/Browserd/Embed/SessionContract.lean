import Browserd.Embed.PageSessionRuns

/-!
# Does every accepted call complete?

The promise of the return values, once nothing is under way any more. An accepted call is forgotten
when its task runs after the shutdown was asked for, or when it waits for a reload whose tab goes.
-/

namespace Browserd

open Transition

namespace ControllerOperation

variable {ρ : Type} [BrowserRuntime ρ] {κ : Type} {chromium : PageChromium κ}
  {c c' : ControllerState ρ κ} {operation operation' : ControllerOperation}
  {answer : ControllerAnswer} {controller : Bool}

end ControllerOperation

namespace PageSession

variable {ρ : Type} [BrowserRuntime ρ] {κ : Type} {chromium : PageChromium κ}
  {s t : PageSession ρ κ}

/-- The promise of the return values. -/
structure Contract (s : PageSession ρ κ) : Prop where
  rejected : ∀ call, (call, EmbedSession.kScheduleRejected) ∈ s.returned →
    call ∉ s.reports.map Prod.fst
  accepted : ∀ call, (call, EmbedSession.kScheduleOk) ∈ s.returned →
    (s.reports.map Prod.fst).count call = 1

end PageSession

end Browserd
