import ScanAudit.Json.Reader

/-!
# Written values are read back

Every value is read back from its text (`ScanAudit.Json.read?_text`): the indentation and
the line breaks are skipped, the commas and brackets put the same value together again, and
nothing is lost in an escape.

Most pieces of a text are read by themselves. A numeral is not: it ends with the first
character that is no digit, so what is said of a value is said of its text in front of any
other text that begins with none.
-/

namespace ScanAudit.Json

/-! ### The tokens of a value -/

mutual

/-- **The tokens of a value's text.** -/
def tokens : Json → List Token
  | null => [.null]
  | bool value => [.bool value]
  | number value => [.number value]
  | string value => [.string value]
  | array items => .openArray :: itemTokens true items ++ [.closeArray]
  | object members => .openObject :: memberTokens true members ++ [.closeObject]

/-- The tokens of the elements of an array: each but the first comes behind a comma. -/
def itemTokens (first : Bool) : List Json → List Token
  | [] => []
  | x :: xs => (if first then [] else [.comma]) ++ tokens x ++ itemTokens false xs

/-- The tokens of the members of an object. -/
def memberTokens (first : Bool) : List (String × Json) → List Token
  | [] => []
  | (key, value) :: ms =>
    (if first then [] else [.comma]) ++ .string key :: .colon :: tokens value ++
      memberTokens false ms

end

/-! ### Characters to tokens -/

variable {rest : List Char}

theorem lex_cons (state : Lexing) (c : Char) (cs : List Char) : lex state (c :: cs) =
    (state.step c).bind fun x => (lex x.2 cs).map (x.1 ++ ·) := by
  rw [lex]
  rcases state.step c with _ | ⟨tokens, next⟩ <;> rfl

/-- **A step without a token** leaves the tokens to what follows. -/
theorem lex_of_step {state next : Lexing} {c : Char} (h : state.step c = some ([], next))
    (cs : List Char) : lex state (c :: cs) = lex next cs := by
  simp [lex_cons, h]

/-- A step that ends a token. -/
theorem lex_of_step_token {state next : Lexing} {c : Char} {t : Token}
    (h : state.step c = some ([t], next)) (cs : List Char) :
    lex state (c :: cs) = (lex next cs).map (t :: ·) := by
  simp [lex_cons, h]

theorem lex_blanks (n : Nat) (rest : List Char) :
    lex .between (List.replicate n ' ' ++ rest) = lex .between rest := by
  induction n with
  | zero => rfl
  | succ n ih => rw [List.replicate_succ, List.cons_append, lex_of_step rfl, ih]

theorem lex_lastBreak (depth : Nat) (rest : List Char) :
    lex .between ((lastBreak depth).toList ++ rest) = lex .between rest := by
  have hchars : (lastBreak depth).toList = '\n' :: List.replicate (2 * depth) ' ' := by
    simp [lastBreak, Layout.toList_blanks]
  rw [hchars, List.cons_append, lex_of_step rfl, lex_blanks]

theorem lex_separator (first : Bool) (depth : Nat) (rest : List Char) :
    lex .between ((separator first depth).toList ++ rest) =
      (lex .between rest).map ((if first then [] else [.comma]) ++ ·) := by
  have hbreak := lex_lastBreak depth rest
  cases first with
  | true => simpa [separator, lastBreak] using hbreak
  | false =>
    have hchars : (separator false depth).toList = ',' :: (lastBreak depth).toList := by
      simp [separator, lastBreak]
    rw [hchars, List.cons_append, lex_of_step_token rfl, hbreak]
    rfl

theorem lex_word (next : Char) (left : List Char) (t : Token) (rest : List Char) :
    lex (.word next left t) (next :: left ++ rest) = (lex .between rest).map (t :: ·) := by
  induction left generalizing next with
  | nil => exact lex_of_step_token (by simp [Lexing.step]) rest
  | cons c left ih =>
    have hstep : (Lexing.word next (c :: left) t).step next = some ([], .word c left t) := by
      simp [Lexing.step]
    rw [List.cons_append, List.cons_append, lex_of_step hstep]
    exact ih c

/-- **A word is read** to its last letter, which ends its token. -/
theorem lex_word_of_start {c next : Char} {left : List Char} {t : Token}
    (h : Lexing.between.step c = some ([], .word next left t)) (rest : List Char) :
    lex .between (c :: next :: left ++ rest) = (lex .between rest).map (t :: ·) :=
  (lex_of_step h _).trans (lex_word next left t rest)

/-! ### Numerals -/

/-- **A text that does not begin with a digit**, and so ends a numeral before it. -/
def EndsNumeral (rest : List Char) : Prop :=
  ∀ c ∈ rest.head?, ¬c.isDigit

theorem lex_digits {digits : List Char} (h : ∀ c ∈ digits, c.isDigit) (read rest : List Char) :
    lex (.number read) (digits ++ rest) = lex (.number (digits.reverse ++ read)) rest := by
  induction digits generalizing read with
  | nil => rfl
  | cons c digits ih =>
    rw [List.forall_mem_cons] at h
    have hstep : (Lexing.number read).step c = some ([], .number (c :: read)) := by
      simp [Lexing.step, h.1]
    rw [List.cons_append, lex_of_step hstep, ih h.2]
    simp

theorem lex_number_end {digits : List Char} {n : Nat} (h : numeral? digits.reverse = some n)
    (hrest : EndsNumeral rest) :
    lex (.number digits) rest = (lex .between rest).map (.number n :: ·) := by
  cases rest with
  | nil => simp [lex, Lexing.finish, h]
  | cons c rest =>
    -- the character that ends the numeral is read as if it came between two tokens
    have hc : ¬c.isDigit := hrest c rfl
    simp only [lex_cons, Lexing.step, hc, h]
    rcases Lexing.start c with _ | ⟨tokens, next⟩ <;> simp [Function.comp_def]

theorem numeral?_toDigits (n : Nat) : numeral? (Nat.toDigits 10 n) = some n := by
  simp [numeral?, Nat.ofDigitChars_ten_toDigits]

theorem step_of_isDigit {c : Char} (h : c.isDigit) :
    Lexing.between.step c = some ([], .number [c]) := by
  show Lexing.start c = _
  unfold Lexing.start
  split
  case h_15 => exact if_pos h
  -- none of the characters with a meaning of their own is a digit
  all_goals exact absurd h (by decide)

/-- **A numeral is read** when no further digit comes behind it. -/
theorem lex_plain (n : Nat) (hrest : EndsNumeral rest) :
    lex .between ((Decimal.plain n).toList ++ rest) =
      (lex .between rest).map (.number n :: ·) := by
  have hdigits := List.all_eq_true.mp (Decimal.all_isDigit_plain n)
  have hnumeral := numeral?_toDigits n
  rw [Decimal.toList_plain] at hdigits ⊢
  cases hn : Nat.toDigits 10 n with
  | nil => exact absurd hn Nat.toDigits_ne_nil
  | cons c digits =>
    rw [hn, List.forall_mem_cons] at hdigits
    have hread : numeral? (digits.reverse ++ [c]).reverse = some n := by
      rw [← hnumeral, hn]
      simp
    rw [List.cons_append, lex_of_step (step_of_isDigit hdigits.1), lex_digits hdigits.2,
      lex_number_end hread hrest]

/-! ### Strings -/

theorem hexValue?_digitChar : ∀ d < 16, hexValue? (Nat.digitChar d) = some d := by
  decide

theorem char?_toNat (c : Char) : char? c.toNat = some c := by
  rw [char?, if_pos (show c.toNat.isValidChar from c.valid), Char.ofNat_toNat]

/-- A control character below the blank has a code of two digits. -/
theorem controlEscape_eq {c : Char} (h : c.toNat < 32) : controlEscape c =
    ['\\', 'u', '0', '0', Nat.digitChar (c.toNat / 16), Nat.digitChar (c.toNat % 16)] := by
  have hdigits : ∀ n < 32, List.replicate (4 - (Nat.toDigits 16 n).length) '0' ++
      Nat.toDigits 16 n = ['0', '0', Nat.digitChar (n / 16), Nat.digitChar (n % 16)] := by
    decide
  rw [controlEscape, hdigits _ h]

theorem lex_controlEscape {c : Char} (h : c.toNat < 32) (read rest : List Char) :
    lex (.string read) (controlEscape c ++ rest) = lex (.string (c :: read)) rest := by
  have hhigh := hexValue?_digitChar (c.toNat / 16) (by omega)
  have hlow := hexValue?_digitChar (c.toNat % 16) (Nat.mod_lt _ (by decide))
  have hzeros : lex (.string read) (controlEscape c ++ rest) =
      lex (.code read 1 0)
        (Nat.digitChar (c.toNat / 16) :: Nat.digitChar (c.toNat % 16) :: rest) := by
    rw [controlEscape_eq h]
    iterate 4 rw [List.cons_append, lex_of_step rfl]
    rfl
  -- the first two digits are zeros, so the value is made of the last two
  have hfirst : (Lexing.code read 1 0).step (Nat.digitChar (c.toNat / 16)) =
      some ([], .code read 0 (c.toNat / 16)) := by
    simp [Lexing.step, hhigh]
  have hsecond : (Lexing.code read 0 (c.toNat / 16)).step (Nat.digitChar (c.toNat % 16)) =
      some ([], .string (c :: read)) := by
    have hcode : 16 * (c.toNat / 16) + c.toNat % 16 = c.toNat := Nat.div_add_mod _ _
    simp [Lexing.step, hlow, hcode, char?_toNat]
  rw [hzeros, lex_of_step hfirst, lex_of_step hsecond]

/-- **A character is spelled in one of three ways**: by a letter behind a backslash, by its
code, or by itself. -/
theorem spell_cases (c : Char) :
    (∃ letter, spell c = ['\\', letter] ∧ letter ≠ 'u' ∧ unescape? letter = some c) ∨
      (spell c = controlEscape c ∧ c.toNat < 0x20) ∨
      (spell c = [c] ∧ c ≠ '"' ∧ c ≠ '\\' ∧ ¬c.toNat < 0x20) := by
  unfold spell
  split
  case h_8 hquote hbackslash _ _ _ _ _ =>
    split
    · next h => exact Or.inr (Or.inl ⟨rfl, h⟩)
    · next h => exact Or.inr (Or.inr ⟨rfl, hquote, hbackslash, h⟩)
  -- the seven characters that have a letter
  all_goals exact Or.inl ⟨_, rfl, by decide, rfl⟩

/-- **A character is read back from its spelling.** -/
theorem lex_spell (c : Char) (read rest : List Char) :
    lex (.string read) (spell c ++ rest) = lex (.string (c :: read)) rest := by
  rcases spell_cases c with ⟨letter, hspell, hletter, hread⟩ | ⟨hspell, hc⟩ |
    ⟨hspell, hquote, hbackslash, hc⟩
  · rw [hspell, List.cons_append, lex_of_step rfl]
    exact lex_of_step (by simp [Lexing.step, hletter, hread]) rest
  · rw [hspell, lex_controlEscape hc]
  · rw [hspell]
    exact lex_of_step (by simp [Lexing.step, hquote, hbackslash, hc]) rest

theorem lex_flatMap_spell (cs read rest : List Char) :
    lex (.string read) (cs.flatMap spell ++ rest) = lex (.string (cs.reverse ++ read)) rest := by
  induction cs generalizing read with
  | nil => rfl
  | cons c cs ih =>
    rw [List.flatMap_cons, List.append_assoc, lex_spell, ih]
    simp

/-- **A quoted text is read** whatever comes behind it. -/
theorem lex_quote (text : String) (rest : List Char) :
    lex .between ((quote text).toList ++ rest) =
      (lex .between rest).map (.string text :: ·) := by
  have hchars : (quote text).toList ++ rest =
      '"' :: (text.toList.flatMap spell ++ '"' :: rest) := by
    simp [quote]
  rw [hchars, lex_of_step rfl, lex_flatMap_spell]
  refine lex_of_step_token ?_ rest
  simp [Lexing.step]

/-! ### Whole values -/

theorem endsNumeral_nil : EndsNumeral [] := by
  simp [EndsNumeral]

theorem endsNumeral_cons {c : Char} (h : ¬c.isDigit) (rest : List Char) :
    EndsNumeral (c :: rest) := by
  intro d hd
  rwa [← Option.some.inj hd]

theorem endsNumeral_lastBreak (depth : Nat) (rest : List Char) :
    EndsNumeral ((lastBreak depth).toList ++ rest) := by
  simpa [lastBreak] using endsNumeral_cons (by decide) _

theorem endsNumeral_separator (first : Bool) (depth : Nat) (rest : List Char) :
    EndsNumeral ((separator first depth).toList ++ rest) := by
  cases first <;> simpa [separator] using endsNumeral_cons (by decide) _

theorem endsNumeral_itemPieces (first : Bool) (depth : Nat) (xs : List Json)
    (h : EndsNumeral rest) :
    EndsNumeral ((itemPieces first depth xs).flatMap String.toList ++ rest) := by
  cases xs with
  | nil => simpa [itemPieces] using h
  | cons x xs => simpa [itemPieces] using endsNumeral_separator first depth _

theorem endsNumeral_memberPieces (first : Bool) (depth : Nat) (ms : List (String × Json))
    (h : EndsNumeral rest) :
    EndsNumeral ((memberPieces first depth ms).flatMap String.toList ++ rest) := by
  cases ms with
  | nil => simpa [memberPieces] using h
  | cons m ms => simpa [memberPieces] using endsNumeral_separator first depth _

mutual

/-- **The tokens of a text are those of the value it was written for.** -/
theorem lex_pieces (depth : Nat) (v : Json) {rest : List Char} (h : EndsNumeral rest) :
    lex .between ((pieces depth v).flatMap String.toList ++ rest) =
      (lex .between rest).map (v.tokens ++ ·) := by
  match v with
  | null => simpa [pieces, tokens] using lex_word_of_start (c := 'n') rfl rest
  | bool true => simpa [pieces, tokens] using lex_word_of_start (c := 't') rfl rest
  | bool false => simpa [pieces, tokens] using lex_word_of_start (c := 'f') rfl rest
  | number value => simpa [pieces, tokens] using lex_plain value h
  | string value => simpa [pieces, tokens] using lex_quote value rest
  | array [] => simp [pieces, tokens, itemTokens, lex_cons, Lexing.step, Lexing.start,
      Function.comp_def]
  | array (x :: xs) =>
    have hchars : (pieces depth (.array (x :: xs))).flatMap String.toList ++ rest =
        '[' :: ((itemPieces true (depth + 1) (x :: xs)).flatMap String.toList ++
          ((lastBreak depth).toList ++ ']' :: rest)) := by
      simp [pieces]
    rw [hchars, lex_of_step_token rfl, lex_itemPieces true (depth + 1) (x :: xs)
      (endsNumeral_lastBreak depth _), lex_lastBreak, lex_of_step_token rfl]
    simp [tokens, Function.comp_def]
  | object [] => simp [pieces, tokens, memberTokens, lex_cons, Lexing.step, Lexing.start,
      Function.comp_def]
  | object (m :: ms) =>
    have hchars : (pieces depth (.object (m :: ms))).flatMap String.toList ++ rest =
        '\x7b' :: ((memberPieces true (depth + 1) (m :: ms)).flatMap String.toList ++
          ((lastBreak depth).toList ++ '\x7d' :: rest)) := by
      simp [pieces]
    rw [hchars, lex_of_step_token rfl, lex_memberPieces true (depth + 1) (m :: ms)
      (endsNumeral_lastBreak depth _), lex_lastBreak, lex_of_step_token rfl]
    simp [tokens, Function.comp_def]

/-- The tokens of the elements of an array. -/
theorem lex_itemPieces (first : Bool) (depth : Nat) (xs : List Json) {rest : List Char}
    (h : EndsNumeral rest) :
    lex .between ((itemPieces first depth xs).flatMap String.toList ++ rest) =
      (lex .between rest).map (itemTokens first xs ++ ·) := by
  match xs with
  | [] => simp [itemPieces, itemTokens]
  | x :: xs =>
    have hchars : (itemPieces first depth (x :: xs)).flatMap String.toList ++ rest =
        (separator first depth).toList ++ ((pieces depth x).flatMap String.toList ++
          ((itemPieces false depth xs).flatMap String.toList ++ rest)) := by
      simp [itemPieces]
    rw [hchars, lex_separator, lex_pieces depth x (endsNumeral_itemPieces false depth xs h),
      lex_itemPieces false depth xs h]
    simp [itemTokens, Function.comp_def]

/-- The tokens of the members of an object. -/
theorem lex_memberPieces (first : Bool) (depth : Nat) (ms : List (String × Json))
    {rest : List Char} (h : EndsNumeral rest) :
    lex .between ((memberPieces first depth ms).flatMap String.toList ++ rest) =
      (lex .between rest).map (memberTokens first ms ++ ·) := by
  match ms with
  | [] => simp [memberPieces, memberTokens]
  | (key, v) :: ms =>
    have hchars : (memberPieces first depth ((key, v) :: ms)).flatMap String.toList ++ rest =
        (separator first depth).toList ++ ((quote key).toList ++ ':' :: ' ' ::
          ((pieces depth v).flatMap String.toList ++
            ((memberPieces false depth ms).flatMap String.toList ++ rest))) := by
      simp [memberPieces]
    rw [hchars, lex_separator, lex_quote, lex_of_step_token rfl, lex_of_step rfl,
      lex_pieces depth v (endsNumeral_memberPieces false depth ms h),
      lex_memberPieces false depth ms h]
    simp [memberTokens, Function.comp_def]

end

/-! ### Tokens to values -/

theorem assemble_of_step {place next : Place} {t : Token} (h : place.step t = some next)
    (ts : List Token) : assemble place (t :: ts) = assemble next ts := by
  cases place with
  | behind v frames => cases frames <;> simp [assemble, h]
  | _ => simp [assemble, h]

/-- The first token of a value closes no array, so it may stand where an array begins. -/
theorem assemble_firstItem (x : Json) (frames : List Frame) (ts : List Token) :
    assemble (.firstItem frames) (x.tokens ++ ts) =
      assemble (.value (.array [] :: frames)) (x.tokens ++ ts) := by
  cases x <;> rfl

mutual

/-- **The tokens of a value are put together again**, whatever brackets are open around it. -/
theorem assemble_tokens (v : Json) (frames : List Frame) (ts : List Token) :
    assemble (.value frames) (v.tokens ++ ts) = assemble (.behind v frames) ts := by
  match v with
  | null | bool _ | number _ | string _ => rw [tokens]; exact assemble_of_step rfl ts
  | array [] =>
    have htokens : (array []).tokens ++ ts = .openArray :: .closeArray :: ts := by
      simp [tokens, itemTokens]
    rw [htokens, assemble_of_step rfl, assemble_of_step rfl]
  | array (x :: xs) =>
    have htokens : (array (x :: xs)).tokens ++ ts =
        .openArray :: (x.tokens ++ (itemTokens false xs ++ .closeArray :: ts)) := by
      simp [tokens, itemTokens]
    rw [htokens, assemble_of_step rfl, assemble_firstItem, assemble_tokens x,
      assemble_itemTokens x]
    rfl
  | object [] =>
    have htokens : (object []).tokens ++ ts = .openObject :: .closeObject :: ts := by
      simp [tokens, memberTokens]
    rw [htokens, assemble_of_step rfl, assemble_of_step rfl]
  | object ((k, v) :: ms) =>
    have htokens : (object ((k, v) :: ms)).tokens ++ ts = .openObject :: .string k :: .colon ::
        (v.tokens ++ (memberTokens false ms ++ .closeObject :: ts)) := by
      simp [tokens, memberTokens]
    rw [htokens]
    iterate 3 rw [assemble_of_step rfl]
    rw [assemble_tokens v, assemble_memberTokens k v]
    rfl

/-- The elements of an array, behind one of them. -/
theorem assemble_itemTokens (v : Json) (read xs : List Json) (frames : List Frame)
    (ts : List Token) :
    assemble (.behind v (.array read :: frames)) (itemTokens false xs ++ .closeArray :: ts) =
      assemble (.behind (.array (read.reverse ++ v :: xs)) frames) ts := by
  match xs with
  | [] =>
    rw [itemTokens, List.nil_append, assemble_of_step rfl, List.reverse_cons]
  | x :: xs =>
    have htokens : itemTokens false (x :: xs) ++ .closeArray :: ts =
        .comma :: (x.tokens ++ (itemTokens false xs ++ .closeArray :: ts)) := by
      simp [itemTokens]
    rw [htokens, assemble_of_step rfl, assemble_tokens x, assemble_itemTokens x (v :: read) xs]
    simp

/-- The members of an object, behind the value of one of them. -/
theorem assemble_memberTokens (k : String) (v : Json) (read ms : List (String × Json))
    (frames : List Frame) (ts : List Token) :
    assemble (.behind v (.object read k :: frames)) (memberTokens false ms ++ .closeObject :: ts) =
      assemble (.behind (.object (read.reverse ++ (k, v) :: ms)) frames) ts := by
  match ms with
  | [] =>
    rw [memberTokens, List.nil_append, assemble_of_step rfl, List.reverse_cons]
  | (k', v') :: ms =>
    have htokens : memberTokens false ((k', v') :: ms) ++ .closeObject :: ts =
        .comma :: .string k' :: .colon ::
          (v'.tokens ++ (memberTokens false ms ++ .closeObject :: ts)) := by
      simp [memberTokens]
    rw [htokens]
    iterate 3 rw [assemble_of_step rfl]
    rw [assemble_tokens v', assemble_memberTokens k' v' ((k, v) :: read) ms]
    simp

end

/-- **A value is read back from its text.** -/
theorem read?_text (v : Json) : read? v.text = some v := by
  have htokens := lex_pieces 0 v endsNumeral_nil
  simp only [List.append_nil] at htokens
  rw [read?, text, String.toList_join, htokens]
  have hvalue := assemble_tokens v [] []
  simpa [lex, Lexing.finish, assemble] using hvalue

/-- **A value is known by its text.** -/
theorem text_injective {v w : Json} (h : v.text = w.text) : v = w := by
  have hread := read?_text v
  rw [h, read?_text w] at hread
  exact (Option.some.inj hread).symm

end ScanAudit.Json
