import BoundSql.Error

/-!
# Places and slices

Places in a list counted from its beginning, or from its end when negative, and
slices between two places in steps of either direction. A slice never fails for
places beyond the ends; at a single place there may be nothing.
-/

namespace BoundSql
namespace Slice

/-- The member at a place, if there is one. -/
def item? {α : Type} (items : List α) (place : Int) : Option α :=
  let fromStart := if place < 0 then place + items.length else place
  if fromStart < 0 then none else items[fromStart.toNat]?

/-- A place moved to the nearest one between two bounds, after counting from the end. -/
def clamp (length : Nat) (low high place : Int) : Int :=
  let fromStart := if place < 0 then place + length else place
  max low (min high fromStart)

/-- The places of a slice: `count` of them from `start` on. -/
def places (start step : Int) (count : Nat) : List Int :=
  (List.range count).map fun (n : Nat) => start + n * step

/-- How many steps lead from a place towards another one without reaching it. -/
def stepCount (distance step : Int) : Nat :=
  ((distance + step - 1).fdiv step).toNat

/-- The members of a list at places between `start` and `stop`, in steps of `step`. -/
def slice
    {α : Type}
    (items : List α)
    (start stop step : Option Int) : Except Error (List α) :=
  let length := items.length
  let step := step.getD 1
  if step == 0 then
    .error .zeroStep
  else
    let chosen :=
      if 0 < step then
        let first := (start.map (clamp length 0 length)).getD 0
        let last := (stop.map (clamp length 0 length)).getD length
        places first step (stepCount (last - first) step)
      else
        let first := (start.map (clamp length (-1) (length - 1))).getD (length - 1)
        let last := (stop.map (clamp length (-1) (length - 1))).getD (-1)
        places first step (stepCount (first - last) (-step))
    .ok (chosen.filterMap fun place => items[place.toNat]?)

end Slice
end BoundSql
