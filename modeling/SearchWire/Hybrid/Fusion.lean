import SearchWire.Command

/-!
# Fusion of scores

How the scores of the two halves of a hybrid query become one.

* `Fusion`, with its setters: a setting of the other method changes nothing;
* `Fusion.settings`, `Fusion.tokens`: only what was set is counted.
-/

namespace SearchWire

/-- A way to fuse two scores. -/
inductive Fusion where
  /-- By the ranks. -/
  | reciprocalRank (window : Option Nat) (constant : Option Binary64)
  /-- By a weighted sum. -/
  | linear (alpha beta : Option Binary64)
deriving DecidableEq, Repr

namespace Fusion

/-- How many ranks count. -/
def setWindow (f : Fusion) (n : Nat) : Fusion :=
  match f with
  | reciprocalRank _ constant => reciprocalRank (some n) constant
  | linear .. => f

/-- The constant added to a rank. -/
def setConstant (f : Fusion) (x : Binary64) : Fusion :=
  match f with
  | reciprocalRank window _ => reciprocalRank window (some x)
  | linear .. => f

/-- The weight of the text score. -/
def setAlpha (f : Fusion) (x : Binary64) : Fusion :=
  match f with
  | reciprocalRank .. => f
  | linear _ beta => linear (some x) beta

/-- The weight of the vector score. -/
def setBeta (f : Fusion) (x : Binary64) : Fusion :=
  match f with
  | reciprocalRank .. => f
  | linear alpha _ => linear alpha (some x)

def keyword : Fusion → String
  | reciprocalRank .. => "RRF"
  | linear .. => "LINEAR"

/-- What was set, under its names. -/
def settings : Fusion → List (String × Token)
  | reciprocalRank window constant =>
    [window.map fun n => ("WINDOW", .ofNat n),
      constant.map fun x => ("CONSTANT", .ofReal x)].filterMap id
  | linear alpha beta =>
    [alpha.map fun x => ("ALPHA", .ofReal x), beta.map fun x => ("BETA", .ofReal x)].filterMap id

def tokens (f : Fusion) : Command := "COMBINE" :: Command.table f.keyword f.settings

end Fusion

end SearchWire
