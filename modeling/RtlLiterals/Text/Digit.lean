import RtlLiterals.Text.Basic

/-!
# RtlLiterals.Text.Digit -- digits in bases up to sixteen

The digits above nine are letters. They are read in either case, and a writer chooses the case.
-/

namespace RtlLiterals

namespace Text

/-- The value of a hexadecimal digit. -/
def hexValue? (c : Char) : Option Nat :=
  if '0' ≤ c ∧ c ≤ '9' then some (c.toNat - '0'.toNat)
  else if 'a' ≤ c ∧ c ≤ 'f' then some (c.toNat - 'a'.toNat + 10)
  else if 'A' ≤ c ∧ c ≤ 'F' then some (c.toNat - 'A'.toNat + 10)
  else none

/-- The value of a digit in a base up to sixteen. -/
def digitIn? (base : Nat) (c : Char) : Option Nat := (hexValue? c).filter (· < base)

/-- The number that digits write. -/
def natIn? (base : Nat) (t : Text) : Option Nat :=
  if t.isEmpty then none
  else t.foldlM (fun n c => (digitIn? base c).map (base * n + ·)) 0

/-- The hexadecimal digit of a value below sixteen, as a capital where it is a letter and `upper`
is set. -/
def hexDigit (upper : Bool) (n : Nat) : Char :=
  if upper then (Nat.digitChar n).toUpper else Nat.digitChar n

theorem hexValue?_hexDigit (upper : Bool) {n : Nat} (h : n < 16) :
    hexValue? (hexDigit upper n) = some n := by
  have hall : ∀ n : Fin 16, hexValue? (hexDigit true n) = some n.val ∧
      hexValue? (hexDigit false n) = some n.val := by decide
  cases upper with
  | true => exact (hall ⟨n, h⟩).1
  | false => exact (hall ⟨n, h⟩).2

end Text

end RtlLiterals
