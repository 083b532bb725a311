import FlowRules.Text.Basic

/-!
# Resemblance of texts

Two texts resemble each other if enough of their characters lie in common blocks: twice their number is at least
three fifths of the lengths of both texts together.  The longest common block counts, and what is common before it
and behind it.
-/

namespace FlowRules.Text

/-- The length of the longest common start. -/
def commonStart : List Char → List Char → Nat
  | a :: as, b :: bs => if a = b then commonStart as bs + 1 else 0
  | _, _ => 0

/-- Where a block that two texts have in common starts in each of them, and its length. -/
structure CommonBlock where
  left : Nat := 0
  right : Nat := 0
  length : Nat := 0
  deriving DecidableEq, Repr

/-- The longest common block; of several the one that comes first in `as`, and then in `bs`. -/
def longestBlock (as bs : List Char) : CommonBlock :=
  (List.range as.length).foldl (fun best i =>
    (List.range bs.length).foldl (fun best j =>
      let n := commonStart (as.drop i) (bs.drop j)
      if best.length < n then ⟨i, j, n⟩ else best) best) {}

/-- How many characters lie in common blocks. -/
def commonCount : Nat → List Char → List Char → Nat
  | 0, _, _ => 0
  | fuel + 1, as, bs =>
    let block := longestBlock as bs
    if block.length = 0 then 0
    else
      commonCount fuel (as.take block.left) (bs.take block.right) + block.length +
        commonCount fuel (as.drop (block.left + block.length)) (bs.drop (block.right + block.length))

/-- The characters in common blocks and all characters, of both texts. -/
def resemblance (s t : String) : Nat × Nat :=
  (2 * commonCount (s.length + 1) s.toList t.toList, s.length + t.length)

def resembles (s t : String) : Bool :=
  let (common, all) := resemblance s t
  decide (3 * all ≤ 5 * common)

/-- How many similar texts are found at most. -/
def resemblingLimit : Nat := 3

/-- The texts that resemble `t` most, in alphabetical order. -/
def resembling (t : String) (among : List String) : List String :=
  let closer := fun (a b : String) =>
    let (m, n) := resemblance a t
    let (k, l) := resemblance b t
    if m * l = k * n then decide (b ≤ a) else decide (k * n < m * l)
  (((among.filter (resembles · t)).mergeSort closer).take resemblingLimit).mergeSort fun a b => decide (a ≤ b)

end FlowRules.Text
