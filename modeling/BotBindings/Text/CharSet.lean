/-!
# Sets of characters

A character class is written as the runs of code points it consists of. A run may step over every
other code point, the way capital and small letters alternate in many alphabets.
-/

namespace BotBindings.Text

/-- The code points `first`, `first + step`, `first + 2 * step` and so on, up to `last`. -/
structure CodeRun where
  /-- The smallest code point of the run. -/
  first : Nat
  /-- The largest code point of the run. -/
  last : Nat
  /-- The distance of neighbours. -/
  step : Nat

/-- Whether the code point `n` belongs to the run. -/
def CodeRun.contains (run : CodeRun) (n : Nat) : Bool :=
  run.first ≤ n && n ≤ run.last && (n - run.first) % run.step == 0

/-- A set of characters, as the runs of their code points. -/
abbrev CharSet := List CodeRun

/-- Whether `c` belongs to the set. -/
def CharSet.contains (set : CharSet) (c : Char) : Bool :=
  set.any fun run => run.contains c.toNat

end BotBindings.Text
