import Mathlib.Data.List.Induction
import ScanAudit.NodeId

/-!
# Which ids name a node

A node's id is a text, and most texts are no id. This module says which ones are, without
saying how they are read: `ScanAudit.Decimal.Denotes` is the grammar of numerals, with one
digit added behind at a time, and `ScanAudit.NodeId.Spells` adds the one sign there may be in
front. Neither knows of a bound. An id names a node exactly when what it spells has at most
32 bits (`ScanAudit.NodeId.parse_eq_iff_spells`); so leading zeros cannot make an id too
large, and a long id is not too large for its length.

Reading sums up the digits from the left, and the grammar adds them on the right. This is why
the one is tied to the other by induction from the end of the numeral.
-/

namespace ScanAudit

/-! ### Numerals -/

namespace Decimal

/-- **A numeral denotes a number**: each digit that is added behind multiplies the number by
ten and adds its own value. There is at least one digit, and nothing but digits. -/
inductive Denotes : List Char → Nat → Prop
  /-- A single digit. -/
  | digit {d : Nat} : d < 10 → Denotes [d.digitChar] d
  /-- A numeral with one more digit behind it. -/
  | more {cs : List Char} {n d : Nat} : Denotes cs n → d < 10 →
      Denotes (cs ++ [d.digitChar]) (10 * n + d)

variable {cs : List Char} {n d : Nat}

theorem isDigit_digitChar (h : d < 10) : d.digitChar.isDigit := by
  rw [Nat.isDigit_digitChar]
  exact decide_eq_true h

/-- Each of the ten digits is the digit of a number below ten. -/
theorem exists_digitChar {c : Char} (h : c.isDigit) : ∃ d < 10, c = d.digitChar := by
  have hrange : 48 ≤ c.toNat ∧ c.toNat ≤ 57 := Char.isDigit_iff_toNat.mp h
  have hlt : c.toNat - 48 < 10 := by omega
  refine ⟨c.toNat - 48, hlt, Char.toNat_inj.mp ?_⟩
  rw [Nat.toNat_digitChar_of_lt_ten hlt]
  omega

/-- **One more digit** behind a run of digits: ten times the value, and the digit. -/
theorem ofDigitChars_concat (cs : List Char) (h : d < 10) :
    Nat.ofDigitChars 10 (cs ++ [d.digitChar]) 0 = 10 * Nat.ofDigitChars 10 cs 0 + d := by
  rw [Nat.ofDigitChars_append, Nat.ofDigitChars_cons, Nat.ofDigitChars_nil,
    Nat.toNat_digitChar_of_lt_ten h, show '0'.toNat = 48 from rfl, Nat.add_sub_cancel_left]

namespace Denotes

theorem ne_nil (h : Denotes cs n) : cs ≠ [] := by
  cases h <;> simp

/-- A numeral holds digits only. -/
theorem isDigit_of_mem (h : Denotes cs n) {c : Char} (hc : c ∈ cs) : c.isDigit := by
  induction h with
  | digit hd =>
    rw [List.mem_singleton.mp hc]
    exact isDigit_digitChar hd
  | more _ hd ih =>
    rcases List.mem_append.mp hc with hfront | hlast
    · exact ih hfront
    · rw [List.mem_singleton.mp hlast]
      exact isDigit_digitChar hd

theorem ofDigitChars (h : Denotes cs n) : Nat.ofDigitChars 10 cs 0 = n := by
  induction h with
  | digit hd => simpa using ofDigitChars_concat [] hd
  | more _ hd ih => rw [ofDigitChars_concat _ hd, ih]

end Denotes

/-- **A nonempty run of digits is a numeral**, and it denotes its value. -/
theorem denotes_ofDigitChars (hne : cs ≠ []) (hdigits : ∀ c ∈ cs, c.isDigit) :
    Denotes cs (Nat.ofDigitChars 10 cs 0) := by
  induction cs using List.reverseRecOn with
  | nil => exact absurd rfl hne
  | append_singleton cs c ih =>
    obtain ⟨d, hd, rfl⟩ := exists_digitChar (hdigits c (by simp))
    rw [ofDigitChars_concat cs hd]
    -- the digit that is added may be the first one
    by_cases hfirst : cs = []
    · subst hfirst
      simpa using Denotes.digit hd
    · exact (ih hfirst fun c hc => hdigits c (by simp [hc])).more hd

/-- **Reading takes exactly the numerals**, with the number they denote. -/
theorem value?_eq_some_iff : value? cs = some n ↔ Denotes cs n := by
  rw [value?, Option.ite_none_right_eq_some, List.all_eq_true, Option.some.injEq]
  constructor
  · rintro ⟨⟨hne, hdigits⟩, rfl⟩
    exact denotes_ofDigitChars hne hdigits
  · intro h
    exact ⟨⟨h.ne_nil, fun _ => h.isDigit_of_mem⟩, h.ofDigitChars⟩

end Decimal

/-! ### Ids -/

namespace NodeId

/-- **The text of an id spells a number**: it is a numeral, or a numeral behind a single plus
sign. -/
inductive Spells : List Char → Nat → Prop
  /-- A numeral without a sign. -/
  | bare {cs : List Char} {n : Nat} : Decimal.Denotes cs n → Spells cs n
  /-- A numeral with its sign. -/
  | signed {cs : List Char} {n : Nat} : Decimal.Denotes cs n → Spells ('+' :: cs) n

variable {cs : List Char} {n : Nat} {id : String}

/-- **Reading behind the sign takes exactly the spellings.** A numeral does not begin with a
sign, so there is no choice between the two ways to spell. -/
theorem value?_unsigned_iff : Decimal.value? (unsigned cs) = some n ↔ Spells cs n := by
  have hplus (rest : List Char) (n : Nat) : ¬Decimal.Denotes ('+' :: rest) n := fun h =>
    absurd (h.isDigit_of_mem List.mem_cons_self) (by decide)
  rw [Decimal.value?_eq_some_iff]
  unfold unsigned
  split
  · next rest =>
    constructor
    · exact Spells.signed
    · intro h
      cases h with
      | bare h => exact absurd h (hplus rest n)
      | signed h => exact h
  · next hne =>
    constructor
    · exact Spells.bare
    · intro h
      cases h with
      | bare h => exact h
      | signed h => exact absurd rfl (hne _)

theorem read?_eq_some_iff {node : NodeId} :
    read? id = some node ↔ Spells id.toList node.number := by
  rw [← value?_unsigned_iff, read?]
  rcases Decimal.value? (unsigned id.toList) with _ | m
  · simp
  · by_cases hm : m < 4294967296
    · cases node
      simp [hm]
    · have hne : m ≠ node.number := fun h => hm (h ▸ node.inRange)
      simp [hm, hne]

/-- **An id is read as a node** exactly when it spells the node's number. -/
theorem parse_eq_ok_iff {node : NodeId} : parse id = .ok node ↔ Spells id.toList node.number := by
  rw [← read?_eq_some_iff, parse]
  rcases read? id with _ | found <;> simp

/-- **An id is refused** exactly when it spells no number of at most 32 bits, and it is
refused as it stands. -/
theorem parse_eq_error_iff {e : MalformedId} :
    parse id = .error e ↔ e = ⟨id⟩ ∧ ∀ n, Spells id.toList n → 4294967296 ≤ n := by
  have hnone : read? id = none ↔ ∀ n, Spells id.toList n → 4294967296 ≤ n := by
    rw [Option.eq_none_iff_forall_ne_some]
    constructor
    · intro h n hn
      by_contra hlt
      exact h ⟨n, Nat.not_le.mp hlt⟩ (read?_eq_some_iff.mpr hn)
    · intro h node hnode
      exact absurd (h _ (read?_eq_some_iff.mp hnode)) (Nat.not_le.mpr node.inRange)
  rw [← hnone, parse]
  rcases read? id with _ | found <;> simp [eq_comm]

/-! ### Three ways to write a number -/

/-- The numeral of a number denotes it, with any number of zeros in front. -/
theorem denotes_zeros (k n : Nat) :
    Decimal.Denotes (List.replicate k '0' ++ (Decimal.plain n).toList) n :=
  Decimal.value?_eq_some_iff.mp (Decimal.value?_zeros k n)

theorem parse_zeroFill (width : Nat) (node : NodeId) :
    parse (Layout.zeroFill width node.number) = .ok node := by
  rw [parse_eq_ok_iff, Layout.zeroFill, String.toList_append, String.toList_ofList]
  exact .bare (denotes_zeros _ _)

theorem parse_signed (node : NodeId) : parse (Layout.signed node.number) = .ok node := by
  rw [parse_eq_ok_iff, Layout.signed, String.toList_append]
  exact .signed (denotes_zeros 0 _)

/-- **An id names a node exactly when it spells a number of at most 32 bits**: a nonempty run
of ASCII digits, with any number of leading zeros, that may have one plus sign in front. It
names the node with that number, and any other text is refused as it stands. So the number of
a node is read back from its plain numeral, from the numeral filled with zeros to six
places, and from the numeral with its sign. -/
theorem parse_eq_iff_spells :
    (∀ id n, (∃ hn, parse id = .ok ⟨n, hn⟩) ↔ Spells id.toList n ∧ n ≤ 4294967295) ∧
      (∀ id e, parse id = .error e ↔
        e = ⟨id⟩ ∧ ¬∃ n, Spells id.toList n ∧ n ≤ 4294967295) ∧
      ∀ node, parse node.text = .ok node ∧
        parse (Layout.zeroFill 6 node.number) = .ok node ∧
        parse (Layout.signed node.number) = .ok node := by
  refine ⟨fun id n => ?_, fun id e => ?_, fun node =>
    ⟨parse_text node, parse_zeroFill 6 node, parse_signed node⟩⟩
  · constructor
    · rintro ⟨hn, hparse⟩
      exact ⟨parse_eq_ok_iff.mp hparse, Nat.le_of_lt_succ hn⟩
    · rintro ⟨hspells, hn⟩
      exact ⟨Nat.lt_succ_of_le hn, parse_eq_ok_iff.mpr hspells⟩
  · rw [parse_eq_error_iff, not_exists]
    refine and_congr_right fun _ => forall_congr' fun n => ?_
    rw [not_and]
    exact imp_congr_right fun _ => by omega

/-- The sign is written once and is never a minus, before zero too. -/
example : parse "-0" = .error ⟨"-0"⟩ ∧ parse "++7" = .error ⟨"++7"⟩ := by decide

/-- Leading zeros do not count, and the bound is on the number. -/
example : parse "+0000000000000042" = .ok ⟨42, by decide⟩ ∧
    parse "4294967296" = .error ⟨"4294967296"⟩ := by decide

end NodeId

end ScanAudit
