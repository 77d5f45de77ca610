import Mathlib.Data.Rat.Floor

/-!
# Rational numbers and binary32

`Float32.Model` is the account that Lean gives of the format and of its operations. Here it is entered from the rational
numbers and left for them again.
-/

inductive Binary32
  | finite (value : Rat)
  | infinite (negative : Bool)
  | nan
  deriving DecidableEq, Repr

namespace Binary32
open Float.Model

/-- The number of the format that is nearest to `q`, by a division that is rounded once. -/
def nearest (q : Rat) : Float32.Model :=
  if zero : q.num = 0 then .pack (.zero .positive)
  else
    .pack (.div .binary32
      (.finite (if q < 0 then .negative else .positive) q.num.natAbs 0 (Int.natAbs_pos.mpr zero))
      (.finite .positive q.den 0 q.den_pos))

def value (f : Float32.Model) : Binary32 :=
  match f.unpack with
  | .zero _ => .finite 0
  | .finite .positive m e _ => .finite (m * (2 : Rat) ^ e)
  | .finite .negative m e _ => .finite (-(m * (2 : Rat) ^ e))
  | .infinity .positive => .infinite false
  | .infinity .negative => .infinite true
  | .notANumber => .nan

def round (q : Rat) : Binary32 := value (nearest q)

-- 24 bits are kept, ties go to the even one, and what is nearer to `2 ^ 128` than to the greatest number is infinite
example : round 16777217 = .finite 16777216 := by decide +kernel
example : round (2 ^ 128 - 2 ^ 103 - 1) = .finite (2 ^ 128 - 2 ^ 104) := by decide +kernel
example : round (-(2 ^ 128 - 2 ^ 103)) = .infinite true := by decide +kernel

end Binary32
