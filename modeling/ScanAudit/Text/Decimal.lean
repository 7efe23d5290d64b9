/-!
# Decimal numerals

A numeral is a nonempty run of the digits `0` to `9`, most significant first. Every
numeral names exactly one number; a number has one numeral without superfluous
leading zeros, its *plain* numeral, and infinitely many with them. Reading therefore
accepts more than writing produces, and the two statements that tie them together are
`ScanAudit.Decimal.value?_plain` (a plain numeral reads back) and
`ScanAudit.Decimal.value?_zeros` (leading zeros change nothing).

Only the ten ASCII digits count: other scripts have digits of their own, and an id
written with those is not a numeral.
-/

namespace ScanAudit.Decimal

/-- **The plain numeral** of a number: no sign, no leading zeros, `0` for zero. -/
def plain (n : Nat) : String :=
  n.repr

/-- **Reading a numeral**: the number a nonempty run of digits stands for, and nothing
for any other text, the empty one included. -/
def value? (cs : List Char) : Option Nat :=
  if cs ≠ [] ∧ cs.all Char.isDigit then some (Nat.ofDigitChars 10 cs 0) else none

/-- The characters of a plain numeral are the digits of the number in base ten. -/
theorem toList_plain (n : Nat) : (plain n).toList = Nat.toDigits 10 n :=
  Nat.toList_repr

/-- A plain numeral holds digits only. -/
theorem all_isDigit_plain (n : Nat) : (plain n).toList.all Char.isDigit := by
  rw [toList_plain, List.all_eq_true]
  exact fun c hc => Nat.isDigit_of_mem_toDigits (by decide) (by decide) hc

/-- A plain numeral is never empty. -/
theorem plain_ne_nil (n : Nat) : (plain n).toList ≠ [] := by
  rw [toList_plain]
  exact Nat.toDigits_ne_nil

/-- **A plain numeral reads back** as the number it was written for. -/
theorem value?_plain (n : Nat) : value? (plain n).toList = some n := by
  rw [value?, if_pos ⟨plain_ne_nil n, all_isDigit_plain n⟩, toList_plain,
    Nat.ofDigitChars_ten_toDigits]

/-- **Leading zeros do not change the value** of a numeral. -/
theorem value?_zeros (k n : Nat) :
    value? (List.replicate k '0' ++ (plain n).toList) = some n := by
  have hdigits : (List.replicate k '0' ++ (plain n).toList).all Char.isDigit := by
    rw [List.all_append, all_isDigit_plain, List.all_replicate]
    simp
  rw [value?, if_pos ⟨List.append_ne_nil_of_right_ne_nil _ (plain_ne_nil n), hdigits⟩,
    Nat.ofDigitChars_append, Nat.ofDigitChars_replicate_zero, toList_plain, Nat.mul_zero,
    Nat.ofDigitChars_ten_toDigits]

/-- Distinct numbers have distinct plain numerals. -/
theorem plain_injective {m n : Nat} (h : plain m = plain n) : m = n := by
  have hm := value?_plain m
  rw [h, value?_plain n] at hm
  exact (Option.some.inj hm).symm

end ScanAudit.Decimal
