import FlowRules.Text.LetterCase

/-!
# Comparing characters without regard to case

A character is compared by its small letter.  Small letters that share a capital stand for each other.
-/

namespace FlowRules.Pattern

/-- Small letters with other small letters that have the same capital. -/
def sameCapital : List (Nat × List Nat) := [
  (105, [305]), (115, [383]), (181, [956]), (305, [105]), (383, [115]), (837, [953, 8126]), (912, [8147]),
  (944, [8163]), (946, [976]), (949, [1013]), (952, [977]), (953, [837, 8126]), (954, [1008]), (956, [181]),
  (960, [982]), (961, [1009]), (962, [963]), (963, [962]), (966, [981]), (976, [946]), (977, [952]),
  (981, [966]), (982, [960]), (1008, [954]), (1009, [961]), (1013, [949]), (1074, [7296]), (1076, [7297]),
  (1086, [7298]), (1089, [7299]), (1090, [7300, 7301]), (1098, [7302]), (1123, [7303]), (7296, [1074]),
  (7297, [1076]), (7298, [1086]), (7299, [1089]), (7300, [1090, 7301]), (7301, [1090, 7300]),
  (7302, [1098]), (7303, [1123]), (7304, [42571]), (7777, [7835]), (7835, [7777]), (8126, [837, 953]),
  (8147, [912]), (8163, [944]), (42571, [7304]), (64261, [64262]), (64262, [64261])]

/-- Whether case counts, and in which alphabet it does not. -/
inductive Fold where
  | exact
  | basic
  | full
  deriving DecidableEq, Repr, Inhabited

/-- The one small letter of a character. -/
def smallLetter (n : Nat) : Nat := if n = 304 then 105 else (Text.shifted n Text.lowerShifts).getD n

/-- The capital of a character, or the first of its capitals. -/
def capitalLetter (n : Nat) : Nat :=
  match Text.shifted n Text.upperShifts with
  | some m => m
  | none => ((Text.upperSpecials.lookup n).bind List.head?).getD n

def basicSmall (n : Nat) : Nat := if 65 ≤ n ∧ n ≤ 90 then n + 32 else n

/-- Whether a shift covers a code point from `lo` to `hi`. -/
def shiftMeets (lo hi : Nat) (s : Text.Shift) : Bool :=
  let first := if lo ≤ s.first then s.first else s.first + (lo - s.first + (s.step - 1)) / s.step * s.step
  decide (first ≤ s.last) && decide (first ≤ hi)

/-- The characters whose small letter is `l`. -/
def withSmallLetter (l : Nat) : List Nat :=
  (if smallLetter l = l then [l] else []) ++ (if l = 105 then [304] else []) ++
    Text.lowerShifts.filterMap fun s =>
      let n := (l : Int) - s.delta
      if (s.first : Int) ≤ n ∧ n ≤ s.last ∧ (n.toNat - s.first) % s.step = 0 then some n.toNat else none

namespace Fold

/-- The form of a character that is compared. -/
def small (fold : Fold) (n : Nat) : Nat :=
  match fold with
  | .exact => n
  | .basic => basicSmall n
  | .full => smallLetter n

/-- Other small letters that stand for a small letter. -/
def kin (fold : Fold) (l : Nat) : List Nat :=
  match fold with
  | .full => (sameCapital.lookup l).getD []
  | _ => []

/-- Whether a character has a small or a capital letter other than itself. -/
def isCased (fold : Fold) (n : Nat) : Bool :=
  match fold with
  | .exact => false
  | .basic => (65 ≤ n && n ≤ 90) || (97 ≤ n && n ≤ 122)
  | .full => smallLetter n != n || capitalLetter n != n

/-- Whether a character from `lo` to `hi` has a small or a capital letter other than itself. -/
def meetsCased (fold : Fold) (lo hi : Nat) : Bool :=
  match fold with
  | .exact => false
  | .basic => (lo ≤ 90 && 65 ≤ hi) || (lo ≤ 122 && 97 ≤ hi)
  | .full =>
    Text.lowerShifts.any (shiftMeets lo hi) || Text.upperShifts.any (shiftMeets lo hi) ||
      (lo ≤ 304 && 304 ≤ hi) || Text.upperSpecials.any fun e => lo ≤ e.1 && e.1 ≤ hi

/-- The characters whose form is `l`. -/
def withForm (fold : Fold) (l : Nat) : List Nat :=
  match fold with
  | .exact => [l]
  | .basic => l :: (if 97 ≤ l ∧ l ≤ 122 then [l - 32] else [])
  | .full => withSmallLetter l

end Fold
end FlowRules.Pattern
