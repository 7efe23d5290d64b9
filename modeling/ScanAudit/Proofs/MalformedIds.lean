import ScanAudit.Proofs.Identifiers
import ScanAudit.Proofs.Messages

/-!
# Messages about malformed ids

A malformed id may be any text: it may hold quotes and backslashes, something that looks like a
spelled character, or characters that break the line. The message about it still tells which id
it was, and it stands on one line.

Both come from the spelling of single characters. A spelling is never the beginning of another
one: a character that stands for itself is no backslash, a named escape has two characters, and
what is spelled by its code ends at the first closing brace. So a text is read back from its
spelling character by character (`ScanAudit.Quoted.Spelled.append_inj`). Which characters are
spelled by their codes does not matter here: `ScanAudit.Quoted.Spelled` leaves it open, and two
texts that are spelled alike are equal even if they were spelled by different tables.

For the line it does matter: whatever breaks a line must not stand for itself
(`ScanAudit.Quoted.char_of_mem_spell`).
-/

namespace ScanAudit

/-! ### Codes in hexadecimal -/

namespace Quoted

/-- The sixteen digits are different. -/
theorem digitChar_inj : ∀ d < 16, ∀ e < 16, Nat.digitChar d = Nat.digitChar e → d = e := by
  decide

/-- A hexadecimal numeral holds hexadecimal digits. -/
theorem exists_digitChar_of_mem {n : Nat} {c : Char} (h : c ∈ Nat.toDigits 16 n) :
    ∃ d < 16, c = Nat.digitChar d := by
  induction n using Nat.strongRecOn with
  | ind n ih =>
    rcases Nat.lt_or_ge n 16 with hlt | hge
    · rw [Nat.toDigits_of_lt_base hlt, List.mem_singleton] at h
      exact ⟨n, hlt, h⟩
    · rw [Nat.toDigits_of_base_le (by decide) hge, List.mem_append, List.mem_singleton] at h
      rcases h with hfront | hlast
      · exact ih (n / 16) (by omega) hfront
      · exact ⟨n % 16, Nat.mod_lt n (by decide), hlast⟩

/-- **A number is known by its hexadecimal numeral.** -/
theorem toDigits_hex_inj {m n : Nat} (h : Nat.toDigits 16 m = Nat.toDigits 16 n) : m = n := by
  induction m using Nat.strongRecOn generalizing n with
  | ind m ih =>
    rw [Nat.toDigits_eq_if (by decide), Nat.toDigits_eq_if (n := n) (by decide)] at h
    have hfront (k : Nat) : Nat.toDigits 16 k ≠ [] := Nat.toDigits_ne_nil
    split at h <;> split at h
    · next hm hn => exact digitChar_inj m hm n hn (List.singleton_inj.mp h)
    · exact absurd (congrArg List.length h) (by simp [hfront])
    · exact absurd (congrArg List.length h) (by simp [hfront])
    · obtain ⟨hrest, hlast⟩ := List.append_inj' h rfl
      have hquot : m / 16 = n / 16 := ih (m / 16) (by omega) hrest
      have hrem : m % 16 = n % 16 := digitChar_inj _ (Nat.mod_lt m (by decide)) _
        (Nat.mod_lt n (by decide)) (List.singleton_inj.mp hlast)
      omega

/-! ### The spelling of a character -/

variable {c d : Char} {s t x y : List Char}

/-- The characters with a named escape, each with its letter. -/
def names : List (Char × Char) :=
  [('"', '"'), ('\\', '\\'), ('\x00', '0'), ('\t', 't'), ('\n', 'n'), ('\r', 'r')]

theorem mem_names {letter : Char} (h : named? c = some letter) : (c, letter) ∈ names := by
  unfold named? at h
  split at h <;> simp_all [names, eq_comm]

/-- **A named escape names one character.** -/
theorem named?_inj {letter : Char} (hc : named? c = some letter) (hd : named? d = some letter) :
    c = d := by
  have hall : ∀ p ∈ names, ∀ q ∈ names, p.2 = q.2 → p.1 = q.1 := by decide
  exact hall _ (mem_names hc) _ (mem_names hd) rfl

/-- **A spelling of a character**, whatever the table of characters without a glyph: a character
that has a named escape is spelled by it, and any other one by itself or by its code. -/
inductive Spelled : Char → List Char → Prop
  /-- The character itself. -/
  | itself {c : Char} : named? c = none → Spelled c [c]
  /-- A backslash and the letter for the character. -/
  | named {c letter : Char} : named? c = some letter → Spelled c ['\\', letter]
  /-- The code of the character between braces. -/
  | byCode {c : Char} : named? c = none → Spelled c (byCode c)

theorem spelled_spell (glyphless : Char → Bool) (c : Char) : Spelled c (spell glyphless c) := by
  rw [spell]
  rcases hc : named? c with _ | letter
  · cases glyphless c
    · exact .itself hc
    · exact .byCode hc
  · exact .named hc

/-- A character spelled by itself is not taken for the beginning of an escape. -/
theorem ne_backslash (h : named? c = none) : c ≠ '\\' := by
  rintro rfl
  exact absurd h (by decide)

/-- No named escape begins as a code does. -/
theorem named?_ne_u : named? c ≠ some 'u' := fun h =>
  absurd (mem_names h) (by simp [names])

/-- A code ends where it is closed. -/
theorem brace_notMem (c : Char) : '}' ∉ Nat.toDigits 16 c.toNat := by
  intro h
  obtain ⟨d, hd, hbrace⟩ := exists_digitChar_of_mem h
  have hall : ∀ d < 16, '}' ≠ Nat.digitChar d := by decide
  exact hall d hd hbrace

/-- **Spelled characters can be told apart**, whatever follows them: none of the spellings of a
character is the beginning of a spelling of another one. -/
theorem Spelled.append_inj (hs : Spelled c s) (ht : Spelled d t) (h : s ++ x = t ++ y) :
    c = d ∧ x = y := by
  cases hs with
  | itself hc =>
    cases ht with
    | itself => exact List.cons.inj h
    | named | byCode => exact absurd (List.cons.inj h).1 (ne_backslash hc)
  | named hc =>
    cases ht with
    | itself hd => exact absurd (List.cons.inj h).1.symm (ne_backslash hd)
    | named hd =>
      obtain ⟨rfl, hrest⟩ := List.cons.inj (List.cons.inj h).2
      exact ⟨named?_inj hc hd, hrest⟩
    | byCode =>
      obtain ⟨rfl, -⟩ := List.cons.inj (List.cons.inj h).2
      exact absurd hc named?_ne_u
  | byCode =>
    cases ht with
    | itself hd => exact absurd (List.cons.inj h).1.symm (ne_backslash hd)
    | named hd =>
      obtain ⟨rfl, -⟩ := List.cons.inj (List.cons.inj h).2
      exact absurd hd named?_ne_u
    | byCode =>
      have hcode : Nat.toDigits 16 c.toNat ++ '}' :: x = Nat.toDigits 16 d.toNat ++ '}' :: y := by
        simpa [Quoted.byCode] using h
      obtain ⟨hdigits, hrest⟩ := Delimited.append_cons_inj (brace_notMem c) (brace_notMem d) hcode
      exact ⟨Char.toNat_inj.mp (toDigits_hex_inj hdigits), hrest⟩

theorem Spelled.ne_nil (h : Spelled c s) : s ≠ [] := by
  cases h <;> simp [Quoted.byCode]

/-! ### Quoted texts -/

/-- **A text is known by the spellings of its characters**, even if it is not known which
characters the table has that spelled them. -/
theorem body_inj {glyphless other : Char → Bool} {cs ds : List Char}
    (h : body glyphless cs = body other ds) : cs = ds := by
  induction cs generalizing ds with
  | nil =>
    cases ds with
    | nil => rfl
    | cons d ds =>
      exact absurd (List.append_eq_nil_iff.mp h.symm).1 (spelled_spell other d).ne_nil
  | cons c cs ih =>
    cases ds with
    | nil => exact absurd (List.append_eq_nil_iff.mp h).1 (spelled_spell glyphless c).ne_nil
    | cons d ds =>
      obtain ⟨rfl, hrest⟩ := (spelled_spell glyphless c).append_inj (spelled_spell other d) h
      rw [ih hrest]

/-- **A text is known by its quotation.** -/
theorem quote_inj {a b : String} (h : quote a = quote b) : a = b := by
  rw [quote, quote, String.append_left_inj, String.append_right_inj, String.ofList_inj] at h
  exact String.toList_inj.mp (body_inj h)

/-- **What stands in a spelling** is printable ASCII, unless it is the character itself. -/
theorem char_of_mem_spell {glyphless : Char → Bool} {r : Char} (h : r ∈ spell glyphless c) :
    Glyphless.plainAscii r ∨ r = c ∧ ¬glyphless c := by
  rw [spell] at h
  rcases hc : named? c with _ | letter
  · cases hglyph : glyphless c
    · exact Or.inr ⟨by simpa [hc, hglyph] using h, by simp⟩
    · have hcode : r = '\\' ∨ r = 'u' ∨ r = '{' ∨ r ∈ Nat.toDigits 16 c.toNat ∨ r = '}' := by
        simpa [hc, hglyph, byCode] using h
      rcases hcode with rfl | rfl | rfl | hdigit | rfl
      · exact Or.inl (by decide)
      · exact Or.inl (by decide)
      · exact Or.inl (by decide)
      · obtain ⟨d, hd, rfl⟩ := exists_digitChar_of_mem hdigit
        have hall : ∀ d < 16, Glyphless.plainAscii (Nat.digitChar d) := by decide
        exact Or.inl (hall d hd)
      · exact Or.inl (by decide)
  · have hname : r = '\\' ∨ r = letter := by simpa [hc] using h
    have hall : ∀ p ∈ names, Glyphless.plainAscii p.2 := by decide
    rcases hname with rfl | rfl
    · exact Or.inl (by decide)
    · exact Or.inl (hall _ (mem_names hc))

/-- **A quotation stands on one line**, whatever the text. -/
theorem notMem_quote_of_mem_lineBreaks {r : Char} (hr : r ∈ Glyphless.lineBreaks) (text : String) :
    r ∉ (quote text).toList := by
  have hplain : ¬Glyphless.plainAscii r := Glyphless.not_plainAscii_of_mem_lineBreaks hr
  have hbody : r ∉ body Glyphless.glyphless text.toList := by
    intro hmem
    obtain ⟨c, -, hspell⟩ := List.mem_flatMap.mp hmem
    rcases char_of_mem_spell hspell with hascii | ⟨rfl, hglyph⟩
    · exact hplain hascii
    · exact hglyph (Glyphless.glyphless_of_mem_lineBreaks hr)
  have hmark : r ≠ '"' := by
    rintro rfl
    exact hplain (by decide)
  simp [quote, hmark, hbody]

end Quoted

/-! ### The messages -/

namespace MalformedId

/-- **A malformed id is known by the message about it.** -/
theorem message_injective {e f : MalformedId} (h : e.message = f.message) : e = f := by
  rw [message, message, String.append_left_inj, String.append_right_inj] at h
  exact congrArg MalformedId.mk (Quoted.quote_inj h)

theorem notMem_message_of_mem_lineBreaks {c : Char} (hc : c ∈ Glyphless.lineBreaks)
    (e : MalformedId) : c ∉ e.message.toList := by
  have hwords : Printable "node id " ∧ Printable " is not a decimal node identifier" := by decide
  simp only [message, String.toList_append, List.mem_append, not_or]
  exact ⟨⟨hwords.1.not_mem_of_mem_lineBreaks hc, Quoted.notMem_quote_of_mem_lineBreaks hc e.id⟩,
    hwords.2.not_mem_of_mem_lineBreaks hc⟩

/-- **The message about a malformed id tells which id it was**, on one line.

* Two texts that are refused as ids with one message are equal.
* The message holds nothing that ends a line, whatever the text holds.
* The spelling of a text tells the text by itself. One need not know which characters are
  spelled by their codes, and these may even be others for the two texts. -/
theorem message_faithful :
    (∀ a b e f, NodeId.parse a = .error e → NodeId.parse b = .error f →
      e.message = f.message → a = b) ∧
    (∀ a e, NodeId.parse a = .error e → ∀ c ∈ Glyphless.lineBreaks, c ∉ e.message.toList) ∧
    ∀ (glyphless other : Char → Bool) (a b : String),
      Quoted.body glyphless a.toList = Quoted.body other b.toList → a = b := by
  refine ⟨fun a b e f ha hb h => ?_, fun a e _ c hc => notMem_message_of_mem_lineBreaks hc e,
    fun glyphless other a b h => String.toList_inj.mp (Quoted.body_inj h)⟩
  obtain ⟨rfl, -⟩ := NodeId.parse_eq_error_iff.mp ha
  obtain ⟨rfl, -⟩ := NodeId.parse_eq_error_iff.mp hb
  exact congrArg MalformedId.id (message_injective h)

/-- A line feed, and the text that looks like its spelling. -/
example : message ⟨"\n"⟩ = "node id \"\\n\" is not a decimal node identifier" ∧
    message ⟨"\\n"⟩ = "node id \"\\\\n\" is not a decimal node identifier" := by decide

end MalformedId

end ScanAudit
