/-!
# Decimal numbers in text

A number is written in decimal digits, all of the text, with leading zeros
allowed. Only an integer may begin with a minus sign, and nothing begins with
a plus sign.
-/

namespace StreamMux.Decimal

/-- The number that the digits write, the first digit weighing most. -/
def ofDigits (digits : List Char) : Nat :=
  digits.foldl (fun value digit => 10 * value + (digit.toNat - '0'.toNat)) 0

/-- Reads a natural number: one digit or more. -/
def natural? (text : List Char) : Option Nat :=
  if !text.isEmpty && text.all Char.isDigit then some (ofDigits text) else none

/-- Reads an integer: one digit or more, after a minus sign or none. -/
def integer? : List Char → Option Int
  | '-' :: digits => (natural? digits).map fun value => -(value : Int)
  | digits => (natural? digits).map fun value => (value : Int)

theorem natural?_eq_some_iff {text : List Char} {value : Nat} :
    natural? text = some value ↔
      text ≠ [] ∧ (∀ c ∈ text, c.isDigit = true) ∧ value = ofDigits text := by
  unfold natural?
  constructor
  · intro h
    split at h
    · rename_i digits
      cases h
      simp_all
    · cases h
  · rintro ⟨nonempty, digits, rfl⟩
    simp_all

theorem ofDigits_append_singleton (digits : List Char) (digit : Char) :
    ofDigits (digits ++ [digit]) = 10 * ofDigits digits + (digit.toNat - '0'.toNat) := by
  simp [ofDigits]

/-- A number is read back from the digits that it is written in. -/
theorem natural?_toDigits (value : Nat) : natural? (Nat.toDigits 10 value) = some value :=
  natural?_eq_some_iff.2 ⟨Nat.toDigits_ne_nil,
    fun _ => Nat.isDigit_of_mem_toDigits (by decide) (by decide),
    Nat.ofDigitChars_ten_toDigits.symm⟩

end StreamMux.Decimal
