import FlowRules.Proofs.Number.Shortest

/-!
# Decimals, written and read back

A decimal is written with a point among its digits, with zeros in front of them, or with one digit before the point and
an exponent part.  Each of these is read as the same decimal, trailing zeros included, as long as it is in the range of
decimals (`Decimal.read_toText`).
-/

namespace FlowRules.Decimal

open Text Numeral Binary64

variable {d : Decimal} {c : Nat} {e : Int}

/-- A decimal as it can be read: its digits lie within the range. -/
def InRange : Decimal → Prop
  | .finite _ c e => inRange c e = true
  | _ => True

/-- A coefficient and exponent in writing denote just these, with an exponent part or without. -/
theorem finiteChars_spec (c : Nat) (e : Int) :
    Denotes (finiteChars c e) c e ∨
      ∃ cs n, finiteChars c e = cs ++ 'E' :: (if n < 0 then '-' else '+') :: natDigits n.natAbs ∧
        Denotes cs c (e - n) := by
  have hne : natDigits c ≠ [] := Nat.toDigits_ne_nil
  have hall : ∀ d ∈ natDigits c, isDecimalDigit d = true := fun _ => isDecimalDigit_of_mem_natDigits
  have hvalue : digitsValue (natDigits c) = c := digitsValue_natDigits c
  unfold finiteChars
  generalize natDigits c = digits at *
  dsimp only
  split
  · left
    split
    · exact (denotes_behindPoint hall _).congr hvalue (by omega)
    · split
      · next hzero => exact (Denotes.whole ⟨hne, hall⟩).congr hvalue hzero.symm
      · exact (denotes_amongDigits hall (by omega) (by omega)).congr hvalue (by omega)
  · exact .inr ⟨_, _, rfl, (denotes_firstDigit rfl hne hall).congr hvalue (by omega)⟩

theorem read_finiteChars (negative : Bool) (hrange : inRange c e = true) :
    readChars? (signed negative (finiteChars c e)) = some (.finite negative c e) := by
  rcases finiteChars_spec c e with hdenotes | ⟨cs, n, htext, hdenotes⟩
  · exact hdenotes.readChars?
  · have hplace : n + (e - n) = e := by omega
    have hne : natDigits n.natAbs ≠ [] := Nat.toDigits_ne_nil
    have hread (hplaced : inRange c (n + (e - n)) = true) :
        readChars? (signed negative (cs ++ 'E' :: (if n < 0 then '-' else '+') :: natDigits n.natAbs)) =
          some (.finite negative c (n + (e - n))) :=
      hdenotes.readChars?_mark (.inr rfl) hne (fun _ => isDigit_of_mem_natDigits) (plainValue_natDigits n.natAbs)
        hplaced
    rw [hplace] at hread
    rw [htext]
    exact hread hrange

/-- The text of a decimal is read as the decimal. -/
theorem read_toText (hd : d.isNaN = false) (hrange : d.InRange) : read? d.toText = some d := by
  rw [read?, toText, String.toList_ofList]
  cases d with
  | finite s c e => exact read_finiteChars s hrange
  | infinite s => cases s <;> decide
  | nan => cases hd

end FlowRules.Decimal
