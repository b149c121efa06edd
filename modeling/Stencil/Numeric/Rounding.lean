/-!
# Rounding quotients

A quotient of natural numbers is rounded to one of its two whole neighbours: to the nearer one, and from
half way either to the even one or away from zero.
-/

namespace Stencil
namespace Numeric

/-- Where a value half way between two neighbours goes. -/
inductive Tie
  | toEven
  | awayFromZero
  deriving DecidableEq

/-- Whether a quotient `whole + part / den` goes up. -/
def Tie.roundsUp (tie : Tie) (whole part den : Nat) : Bool :=
  match compare (2 * part) den with
  | .lt => false
  | .gt => true
  | .eq => tie = .awayFromZero || whole % 2 = 1

/-- The whole number nearest to `num / den`. -/
def roundedQuotient (tie : Tie) (num den : Nat) : Nat :=
  num / den + (tie.roundsUp (num / den) (num % den) den).toNat

theorem le_roundedQuotient (tie : Tie) (num den : Nat) :
    num / den ≤ roundedQuotient tie num den :=
  Nat.le_add_right _ _

theorem roundedQuotient_le (tie : Tie) (num den : Nat) :
    roundedQuotient tie num den ≤ num / den + 1 :=
  Nat.add_le_add_left (Bool.toNat_le _) _

/-- Rounding a whole number keeps it. -/
theorem roundedQuotient_one (tie : Tie) (n : Nat) : roundedQuotient tie n 1 = n := by
  simp [roundedQuotient, Tie.roundsUp, Nat.mod_one, compare, compareOfLessAndEq]

end Numeric
end Stencil
