/-!
# Texts in parts

A text that is put together from parts can be taken apart again if there is a character that
no part holds and that stands behind each of them: a part then ends where this character first
comes. What is written line by line has the line feed for it, and what is written as a list
has the separator.

The statements here are about two such texts that are equal; their parts are then equal as
well, and there are as many of them.
-/

namespace ScanAudit.Delimited

variable {c : Char} {a b x y : List Char}

/-- **A part ends where its delimiter first stands.** When neither of two parts holds the
delimiter and each is followed by it or by nothing, equal texts have equal parts. -/
theorem append_inj_of_delimited (ha : c ∉ a) (hb : c ∉ b) (hx : ∀ d ∈ x.head?, d = c)
    (hy : ∀ d ∈ y.head?, d = c) (h : a ++ x = b ++ y) : a = b ∧ x = y := by
  induction a generalizing b with
  | nil =>
    cases b with
    | nil => exact ⟨rfl, h⟩
    | cons d b =>
      have hd : d = c := hx d (by rw [List.nil_append] at h; simp [h])
      exact absurd (hd ▸ List.mem_cons_self) hb
  | cons d a ih =>
    cases b with
    | nil =>
      have hd : d = c := hy d (by rw [List.nil_append] at h; simp [← h])
      exact absurd (hd ▸ List.mem_cons_self) ha
    | cons e b =>
      obtain ⟨rfl, htail⟩ := List.cons.inj h
      obtain ⟨rfl, hrest⟩ := ih (fun hc => ha (List.mem_cons_of_mem _ hc))
        (fun hc => hb (List.mem_cons_of_mem _ hc)) htail
      exact ⟨rfl, hrest⟩

/-- The same, with the delimiter in sight on both sides. -/
theorem append_cons_inj (ha : c ∉ a) (hb : c ∉ b) (h : a ++ c :: x = b ++ c :: y) :
    a = b ∧ x = y := by
  obtain ⟨hparts, hrest⟩ := append_inj_of_delimited ha hb (by simp) (by simp) h
  exact ⟨hparts, (List.cons.inj hrest).2⟩

/-! ### Parts after a separator -/

variable {sep : List Char} {as bs : List (List Char)}

theorem flatMap_sep_inj (ha : ∀ a ∈ as, c ∉ a) (hb : ∀ b ∈ bs, c ∉ b)
    (h : as.flatMap (c :: sep ++ ·) = bs.flatMap (c :: sep ++ ·)) : as = bs := by
  induction as generalizing bs with
  | nil =>
    cases bs with
    | nil => rfl
    | cons b bs => simp at h
  | cons a as ih =>
    cases bs with
    | nil => simp at h
    | cons b bs =>
      rw [List.forall_mem_cons] at ha hb
      have hparts : a ++ as.flatMap (c :: sep ++ ·) = b ++ bs.flatMap (c :: sep ++ ·) := by
        simpa using h
      obtain ⟨rfl, hrest⟩ := append_inj_of_delimited ha.1 hb.1
        (by cases as <;> simp) (by cases bs <;> simp) hparts
      rw [ih ha.2 hb.2 hrest]

theorem intercalate_cons (sep a : List Char) (as : List (List Char)) :
    sep.intercalate (a :: as) = a ++ as.flatMap (sep ++ ·) := by
  induction as generalizing a with
  | nil => simp
  | cons b as ih => simp [ih]

theorem mem_of_mem_intercalate (h : c ∈ sep.intercalate as) :
    c ∈ sep ∨ ∃ a ∈ as, c ∈ a := by
  cases as with
  | nil => simp at h
  | cons a as =>
    rw [intercalate_cons, List.mem_append, List.mem_flatMap] at h
    rcases h with hfirst | ⟨b, hb, hlater⟩
    · exact Or.inr ⟨a, List.mem_cons_self, hfirst⟩
    · rcases List.mem_append.mp hlater with hsep | hc
      · exact Or.inl hsep
      · exact Or.inr ⟨b, List.mem_cons_of_mem _ hb, hc⟩

/-- **Separated parts can be told apart** when they are not empty and do not hold the
character that begins the separator. -/
theorem intercalate_inj (ha : ∀ a ∈ as, a ≠ [] ∧ c ∉ a) (hb : ∀ b ∈ bs, b ≠ [] ∧ c ∉ b)
    (h : (c :: sep).intercalate as = (c :: sep).intercalate bs) : as = bs := by
  cases as with
  | nil =>
    cases bs with
    | nil => rfl
    | cons b bs => simp_all [intercalate_cons]
  | cons a as =>
    cases bs with
    | nil => simp_all [intercalate_cons]
    | cons b bs =>
      rw [intercalate_cons, intercalate_cons] at h
      rw [List.forall_mem_cons] at ha hb
      obtain ⟨rfl, hrest⟩ := append_inj_of_delimited ha.1.2 hb.1.2
        (by cases as <;> simp) (by cases bs <;> simp) h
      rw [flatMap_sep_inj (fun a h => (ha.2 a h).2) (fun b h => (hb.2 b h).2) hrest]

/-! ### Lines -/

/-- **A line**: a text that ends with a line feed and holds no other. -/
def IsLine (line : String) : Prop :=
  ∃ content, '\n' ∉ content ∧ line.toList = content ++ ['\n']

theorem count_lineFeed_join {lines : List String} (h : ∀ line ∈ lines, IsLine line) :
    (String.join lines).toList.count '\n' = lines.length := by
  induction lines with
  | nil => simp
  | cons line lines ih =>
    rw [List.forall_mem_cons] at h
    obtain ⟨content, hcontent, hline⟩ := h.1
    rw [String.join_cons, String.toList_append, List.count_append, ih h.2, hline,
      List.count_append, List.count_eq_zero.mpr hcontent, List.length_cons]
    simp [Nat.add_comm]

theorem join_lines_inj {lines others : List String} (h : ∀ line ∈ lines, IsLine line)
    (hothers : ∀ line ∈ others, IsLine line) (hjoin : String.join lines = String.join others) :
    lines = others := by
  induction lines generalizing others with
  | nil =>
    cases others with
    | nil => rfl
    | cons other others =>
      obtain ⟨content, -, hother⟩ := hothers other (by simp)
      have := congrArg String.toList hjoin
      simp [hother] at this
  | cons line lines ih =>
    cases others with
    | nil =>
      obtain ⟨content, -, hline⟩ := h line (by simp)
      have := congrArg String.toList hjoin
      simp [hline] at this
    | cons other others =>
      rw [List.forall_mem_cons] at h hothers
      obtain ⟨content, hcontent, hline⟩ := h.1
      obtain ⟨content', hcontent', hother⟩ := hothers.1
      have hchars : content ++ '\n' :: (String.join lines).toList =
          content' ++ '\n' :: (String.join others).toList := by
        simpa [hline, hother] using congrArg String.toList hjoin
      obtain ⟨rfl, hrest⟩ := append_cons_inj hcontent hcontent' hchars
      rw [String.toList_inj.mp (hline.trans hother.symm),
        ih h.2 hothers.2 (String.toList_inj.mp hrest)]

end ScanAudit.Delimited
