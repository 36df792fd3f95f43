import Mathlib.Data.List.Basic

/-!
# Mouse paths

The random paths along which the mouse is moved. `random n` is the `n`-th value that
`base::RandDouble` returns to a call.
-/

namespace Browserd

structure BezierPoint where
  x : Float
  y : Float

def cubicBezier (p0 p1 p2 p3 : BezierPoint) (t : Float) : BezierPoint :=
  let u := 1.0 - t
  let uu := u * u
  let uuu := uu * u
  let tt := t * t
  let ttt := tt * t
  { x := uuu * p0.x + 3 * uu * t * p1.x + 3 * u * tt * p2.x + ttt * p3.x
    y := uuu * p0.y + 3 * uu * t * p1.y + 3 * u * tt * p2.y + ttt * p3.y }

/-- `clamp(static_cast<int>(dist / 40.0), 4, 12)`. -/
def pathSteps (dist : Float) : Nat :=
  (max 4 (min 12 (dist / 40.0).toInt32.toInt)).toNat

def generateMousePath (random : Nat → Float) (origin target : BezierPoint) : List BezierPoint :=
  let dx := target.x - origin.x
  let dy := target.y - origin.y
  let dist := (dx * dx + dy * dy).sqrt
  let steps := pathSteps dist
  let norm := ((-dy) * (-dy) + dx * dx).sqrt
  let perpX := if norm > 0 then -dy / norm else -dy
  let perpY := if norm > 0 then dx / norm else dx
  let curve := (random 0 - 0.5) * dist * 0.3
  let p1 : BezierPoint :=
    ⟨origin.x + dx * 0.3 + perpX * curve, origin.y + dy * 0.3 + perpY * curve⟩
  let p2 : BezierPoint :=
    ⟨origin.x + dx * 0.7 + perpX * curve * 0.5, origin.y + dy * 0.7 + perpY * curve * 0.5⟩
  let point (i : Nat) : BezierPoint :=
    let pt := cubicBezier origin p1 p2 target (i.toFloat / steps.toFloat)
    ⟨pt.x + (random (2 * i - 1) - 0.5) * 2.0, pt.y + (random (2 * i) - 0.5) * 2.0⟩
  let back : BezierPoint :=
    ⟨target.x + (random (2 * steps + 1) - 0.5) * 1.5,
      target.y + (random (2 * steps + 2) - 0.5) * 1.5⟩
  (List.range' 1 (steps - 1)).map point ++ [back]

theorem generateMousePath_ne_nil (random : Nat → Float) (origin target : BezierPoint) :
    generateMousePath random origin target ≠ [] := by
  simp [generateMousePath]

end Browserd
