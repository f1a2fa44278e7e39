/-!
# Runs of case pairs

Case maps of Unicode are regular over long stretches: a run maps every character, or every second
character, between two code points by adding one and the same distance.

Main definitions:

- {lit}`CaseRun`: a stretch of code points with their images.
- {lit}`CaseRun.image?`: the image of a code point under one run.
- {lit}`CaseRun.apply`: the image of a character under a list of runs.
-/

namespace CallGuard.Text

/-- The code points {lit}`first`, {lit}`first + step`, … up to {lit}`last`, and the image of the
first of them; the other images follow at the same distances. -/
structure CaseRun where
  first : Nat
  last : Nat
  step : Nat
  image : Nat
deriving Repr, DecidableEq

namespace CaseRun

/-- The image of a code point, if the run has one for it. -/
def image? (run : CaseRun) (n : Nat) : Option Nat :=
  if run.first ≤ n ∧ n ≤ run.last ∧ (n - run.first) % run.step = 0 then
    some (run.image + (n - run.first))
  else
    none

/-- The image of a character under the first run that has one; a character outside all runs is
its own image. -/
def apply (runs : List CaseRun) (c : Char) : Char :=
  match runs.findSome? fun run => run.image? c.toNat with
  | some n => Char.ofNat n
  | none => c

end CaseRun

end CallGuard.Text
