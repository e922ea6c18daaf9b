import Uiml.Markup.Element
import Uiml.Number.Digits

/-!
# Faults of elements

Why no widget can be built for an element. Most faults concern the element alone, which is passed
over with all below it; some end the whole program.
-/

namespace Uiml

/-- Why an element is passed over. -/
inductive BuildFault where
  | invertedRange (kind : Element.Kind) (min max : Float32)
  | constraintCount (got : Int)
  deriving DecidableEq

/-- The wording of a fault. -/
def BuildFault.message : BuildFault → String
  | .invertedRange kind min max =>
    s!"{kind.name} range is inverted: minValue {Single.text min} > maxValue {Single.text max}"
  | .constraintCount got => s!"constraintCount must be at least 1, got {got}"

/-- Why building cannot go on at all. -/
inductive Breakdown where
  /-- A value is to be taken into a range one bound of which is no number. -/
  | unorderedRange (min max : Float32)
  /-- An index is to be taken into a range that ends before it starts. -/
  | emptyRange
  deriving DecidableEq

/-- The wording of a breakdown. -/
def Breakdown.message : Breakdown → String
  | .unorderedRange min max =>
    s!"min > max, or either was NaN. min = {Single.describe min}, max = {Single.describe max}"
  | .emptyRange => "assertion failed: min <= max"

/-- What keeps an element from being built. -/
inductive Setback where
  | fault (fault : BuildFault)
  | breakdown (breakdown : Breakdown)
  deriving DecidableEq

end Uiml
