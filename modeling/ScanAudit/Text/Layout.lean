import ScanAudit.Text.Decimal

/-!
# Fields of a fixed width

Columns of a listing are made by filling a text up to a width. A text that is already
as wide as its field, or wider, is left as it is: a field never cuts. Width is counted
in characters.
-/

namespace ScanAudit.Layout

/-- Sixteen blanks. -/
def tab : String :=
  "                "

/-- A run of `n` blanks, most of them put down sixteen at a time. -/
def blanks (n : Nat) : String :=
  Nat.repeat (· ++ tab) (n / 16) ("".pushn ' ' (n % 16))

/-- The text at the left edge of a field of the given width. -/
def alignLeft (width : Nat) (text : String) : String :=
  text ++ blanks (width - text.length)

/-- The text at the right edge of a field of the given width. -/
def alignRight (width : Nat) (text : String) : String :=
  blanks (width - text.length) ++ text

/-- The text in the middle of a field of the given width. When the blanks do not split
evenly, the extra one goes to the right. -/
def center (width : Nat) (text : String) : String :=
  let spare := width - text.length
  blanks (spare / 2) ++ text ++ blanks (spare - spare / 2)

/-- The numeral of `n` with leading zeros up to the given width. -/
def zeroFill (width n : Nat) : String :=
  let numeral := Decimal.plain n
  String.ofList (List.replicate (width - numeral.length) '0') ++ numeral

/-- The numeral of `n` with its sign written out. -/
def signed (n : Nat) : String :=
  "+" ++ Decimal.plain n

theorem toList_pushn_blank (n : Nat) : ("".pushn ' ' n).toList = List.replicate n ' ' := by
  rw [String.pushn_eq_repeat_push]
  induction n with
  | zero => rfl
  | succ n ih => rw [Nat.repeat, String.toList_push, ih, List.replicate_succ']

theorem toList_repeat_tab (k : Nat) (text : String) :
    (Nat.repeat (· ++ tab) k text).toList = text.toList ++ List.replicate (16 * k) ' ' := by
  have htab : tab.toList = List.replicate 16 ' ' := by decide
  induction k with
  | zero => simp [Nat.repeat]
  | succ k ih =>
    rw [Nat.repeat, String.toList_append, ih, htab, List.append_assoc,
      List.replicate_append_replicate, Nat.mul_succ]

/-- A run of blanks is what its name says. -/
theorem toList_blanks (n : Nat) : (blanks n).toList = List.replicate n ' ' := by
  rw [blanks, toList_repeat_tab, toList_pushn_blank, List.replicate_append_replicate,
    Nat.mod_add_div]

end ScanAudit.Layout
