import ScanAudit.Proofs.Reading
import ScanAudit.Text.Delimited

/-!
# A printed line tells its record

The line of a callback shows the ids as they arrived, so one record has many lines: an id
may carry a plus sign and leading zeros. The other way round there is no choice. A line
whose ids name nodes tells the record they make (`ScanAudit.Record.ToldBy.unique`), because
such ids are made of digits and the plus sign. They hold neither the blank that ends a
field, nor the line feed that ends a line, and none of them is the dash that stands for no
node.

Nothing of this holds for malformed ids. They are printed as well, before anyone looks at
them, and may imitate any number of fields and lines.
-/

namespace ScanAudit

/-! ### The form of a line -/

namespace Kind

/-- **The tag of a line**, which tells the kind of event. -/
def tag : Kind → String
  | atom => "atom"
  | chunkStart => "chunk:start"
  | chunkEnd => "chunk:end"
  | parallelStart => "parallel:start"
  | parallelEnd => "parallel:end"
  | branchStart => "branch:start"
  | branchEnd => "branch:end"

/-- **The columns of a line**: their names, each with the index of the slot it shows. The
line of a plain node begins with the node itself, which is in the second slot. -/
def columns : Kind → List (String × Nat)
  | atom => [("node", 1), ("before", 0), ("after", 2)]
  | chunkStart => [("node", 0), ("before", 1)]
  | chunkEnd => [("node", 0), ("after", 1)]
  | parallelStart => [("region", 0), ("branch", 1)]
  | parallelEnd => [("region", 0), ("end", 1)]
  | branchStart | branchEnd => [("region", 0), ("node", 1)]

/-- The line with given texts for the slots: the tag between brackets, and the columns. -/
def lineOf (k : Kind) (texts : Nat → String) : String :=
  "[" ++ k.tag ++ "]" ++ String.join (k.columns.map fun x => " " ++ x.1 ++ "=" ++ texts x.2)

/-- A kind is known by its tag. -/
theorem tag_injective {a b : Kind} (h : a.tag = b.tag) : a = b := by
  revert h
  cases a <;> cases b <;> decide

theorem char_of_mem_tag {k : Kind} {c : Char} (h : c ∈ k.tag.toList) : c ≠ ']' ∧ c ≠ '\n' := by
  have hall : k.tag.toList.all fun c => c != ']' && c != '\n' := by cases k <;> decide
  simpa using List.all_eq_true.mp hall c h

theorem char_of_mem_columnName {k : Kind} {x : String × Nat} (hx : x ∈ k.columns) {c : Char}
    (h : c ∈ x.1.toList) : c ≠ ' ' ∧ c ≠ '\n' := by
  have hall : k.columns.all fun x => x.1.toList.all fun c => c != ' ' && c != '\n' := by
    cases k <;> decide
  simpa using List.all_eq_true.mp (List.all_eq_true.mp hall x hx) c h

/-- The line by characters: every column begins with a blank. -/
theorem toList_lineOf (k : Kind) (texts : Nat → String) : (k.lineOf texts).toList =
    '[' :: k.tag.toList ++ ']' ::
      (k.columns.map fun x => x.1.toList ++ '=' :: (texts x.2).toList).flatMap ([' '] ++ ·) := by
  simp [lineOf, List.flatMap, Function.comp_def]

end Kind

/-- **The line of a callback** has the tag of its kind, and in each column the id for the slot,
or a dash. -/
theorem Callback.line_eq_lineOf (c : Callback) :
    c.line = c.kind.lineOf fun i => Callback.shown (c.ids[i]?).join := by
  -- compared by characters, since the words of the tag and the names are put together
  -- differently on the two sides
  refine String.toList_inj.mp ?_
  delta line
  cases c <;> simp [Kind.lineOf, Kind.tag, Kind.columns, kind, ids, shown]

theorem Callback.exists_toList_line (c : Callback) : ∃ rest, c.line.toList = '[' :: rest := by
  rw [line_eq_lineOf, Kind.toList_lineOf, List.cons_append]
  exact ⟨_, rfl⟩

/-! ### Texts of slots -/

/-- **A text shows a slot**: a dash stands for an absent node, an id for the node it names. -/
inductive Shows : String → Option NodeId → Prop
  /-- A dash, and no node. -/
  | absent : Shows "-" none
  /-- An id, and the node it names. -/
  | present {id : String} {node : NodeId} : NodeId.parse id = .ok node → Shows id (some node)

theorem Reads.shows {x : Option String} {slot : Option NodeId} (h : Reads x slot) :
    Shows (Callback.shown x) slot := by
  cases h with
  | absent => exact .absent
  | present h => exact .present h

/-- A readable id is made of digits and the plus sign. -/
theorem NodeId.char_of_parse {id : String} {node : NodeId} (h : parse id = .ok node) {c : Char}
    (hc : c ∈ id.toList) : c.isDigit ∨ c = '+' := by
  have hunsigned : c ∈ unsigned id.toList ∨ c = '+' := by
    unfold unsigned
    split
    · next rest hid =>
      rw [hid] at hc
      exact (List.mem_cons.mp hc).symm
    · exact Or.inl hc
  refine hunsigned.imp_left fun hdigit => ?_
  have hvalue : Decimal.value? (unsigned id.toList) ≠ none := by
    intro hnone
    simp [parse, read?, hnone] at h
  by_contra hc'
  refine hvalue (if_neg fun hdigits => hc' ?_)
  exact List.all_eq_true.mp hdigits.2 c hdigit

namespace Shows

variable {text : String} {slot slot' : Option NodeId}

theorem char_of_mem (h : Shows text slot) {c : Char} (hc : c ∈ text.toList) :
    c.isDigit ∨ c = '+' ∨ c = '-' := by
  cases h with
  | absent => exact Or.inr (Or.inr (by simpa using hc))
  | present h =>
    rcases NodeId.char_of_parse h hc with hdigit | hplus
    · exact Or.inl hdigit
    · exact Or.inr (Or.inl hplus)

theorem ne_of_mem (h : Shows text slot) {c : Char} (hc : c ∈ text.toList) :
    c ≠ ' ' ∧ c ≠ '\n' := by
  have hshown := h.char_of_mem hc
  constructor <;> rintro rfl <;> revert hshown <;> decide

/-- **A text shows one slot only**: the dash is no id. -/
theorem unique (h : Shows text slot) (h' : Shows text slot') : slot = slot' := by
  have hdash {node : NodeId} : NodeId.parse "-" ≠ .ok node := by
    have hread : NodeId.read? "-" = none := by decide
    simp [NodeId.parse, hread]
  cases h with
  | absent =>
    cases h' with
    | absent => rfl
    | present h' => exact absurd h' hdash
  | present h =>
    cases h' with
    | absent => exact absurd h hdash
    | present h' => exact congrArg some (Except.ok.inj (h.symm.trans h'))

end Shows

/-! ### Lines and records -/

/-- **A record is told by a line**: the line has the tag of its kind, and in each column a text
that shows the slot. A slot without a column is absent. -/
def Record.ToldBy (r : Record) (line : String) : Prop :=
  ∃ texts : Nat → String, line = r.kind.lineOf texts ∧
    (∀ x ∈ r.kind.columns, Shows (texts x.2) (r.slot x.2)) ∧
    ∀ i, (∀ x ∈ r.kind.columns, x.2 ≠ i) → r.slot i = none

/-- Slots filled from a list of ids hold, at each index, what the id there puts into them;
beyond the list they are empty. -/
theorem reads_getElem? {ids : List (Option String)} {nodes : List (Option NodeId)}
    (h : List.Forall₂ Reads ids nodes) (n i : Nat) :
    Reads ids[i]?.join (nodes ++ List.replicate n none)[i]?.join := by
  induction h generalizing i with
  | nil =>
    have hnone : ([] ++ List.replicate n (none : Option NodeId))[i]?.join = none := by
      rw [List.nil_append, List.getElem?_replicate]
      split <;> rfl
    rw [hnone]
    exact .absent
  | cons hread _ ih =>
    cases i with
    | zero => simpa using hread
    | succ i => simpa using ih i

/-- **The report of a callback holds in each slot what the id for it puts there.** -/
theorem Callback.Reported.reads {c : Callback} {r : Record} (h : c.Reported r) (i : Nat) :
    Reads c.ids[i]?.join (r.slot i) := by
  obtain ⟨-, nodes, hnodes, hslots⟩ := h
  rw [Record.slot, hslots]
  exact reads_getElem? hnodes _ i

theorem Callback.ids_getElem?_of_no_column {c : Callback} {i : Nat}
    (h : ∀ x ∈ c.kind.columns, x.2 ≠ i) : c.ids[i]? = none := by
  have hshown : ∀ j < c.ids.length, ∃ x ∈ c.kind.columns, x.2 = j := by
    cases c <;> simp [kind, ids, Kind.columns] <;> omega
  rw [List.getElem?_eq_none_iff, ← Nat.not_lt]
  intro hlt
  obtain ⟨x, hx, rfl⟩ := hshown i hlt
  exact h x hx rfl

/-- **The line of a callback tells its report.** -/
theorem Callback.Reported.toldBy_line {c : Callback} {r : Record} (h : c.Reported r) :
    r.ToldBy c.line := by
  have hkind : r.kind = c.kind := h.1
  refine ⟨_, hkind ▸ c.line_eq_lineOf, fun x _ => (h.reads x.2).shows, fun i hi => ?_⟩
  have hreads := h.reads i
  rw [ids_getElem?_of_no_column (hkind ▸ hi), Option.join_none] at hreads
  generalize r.slot i = slot at hreads ⊢
  cases hreads with
  | absent => rfl

/-- A column that shows a slot holds neither a blank nor a line feed. -/
theorem Kind.char_of_mem_column {k : Kind} {texts : Nat → String}
    (hshows : ∀ x ∈ k.columns, ∃ slot, Shows (texts x.2) slot) {c : Char} {column : List Char}
    (hcolumn : column ∈ k.columns.map fun x => x.1.toList ++ '=' :: (texts x.2).toList)
    (h : c ∈ column) : c ≠ ' ' ∧ c ≠ '\n' := by
  obtain ⟨x, hx, rfl⟩ := List.mem_map.mp hcolumn
  rcases List.mem_append.mp h with hname | htext
  · exact char_of_mem_columnName hx hname
  · rcases List.mem_cons.mp htext with rfl | htext
    · decide
    · obtain ⟨slot, hslot⟩ := hshows x hx
      exact hslot.ne_of_mem htext

namespace Record.ToldBy

variable {r s : Record} {line : String}

/-- **A line tells one record only.** -/
theorem unique (hr : r.ToldBy line) (hs : s.ToldBy line) : r = s := by
  obtain ⟨texts, hline, hshows, habsent⟩ := hr
  obtain ⟨texts', hline', hshows', habsent'⟩ := hs
  have hchars := congrArg String.toList (hline.symm.trans hline')
  rw [Kind.toList_lineOf, Kind.toList_lineOf, List.cons_append, List.cons_append,
    List.cons_inj_right] at hchars
  obtain ⟨htag, hcolumns⟩ := Delimited.append_cons_inj
    (fun hc => (Kind.char_of_mem_tag hc).1 rfl) (fun hc => (Kind.char_of_mem_tag hc).1 rfl) hchars
  have hkind : r.kind = s.kind := Kind.tag_injective (String.toList_inj.mp htag)
  rw [← hkind] at hcolumns hshows' habsent'
  have htexts : ∀ x ∈ r.kind.columns, texts x.2 = texts' x.2 := by
    have hlists := Delimited.flatMap_sep_inj
      (fun _ hmem hc => (Kind.char_of_mem_column (fun x hx => ⟨_, hshows x hx⟩) hmem hc).1 rfl)
      (fun _ hmem hc => (Kind.char_of_mem_column (fun x hx => ⟨_, hshows' x hx⟩) hmem hc).1 rfl)
      hcolumns
    intro x hx
    have htail := List.append_cancel_left (List.map_inj_left.mp hlists x hx)
    exact String.toList_inj.mp (List.cons.inj htail).2
  refine Record.ext_slot hkind fun i => ?_
  by_cases hi : ∃ x ∈ r.kind.columns, x.2 = i
  · obtain ⟨x, hx, rfl⟩ := hi
    exact (htexts x hx ▸ hshows x hx).unique (hshows' x hx)
  · have hi' : ∀ x ∈ r.kind.columns, x.2 ≠ i := fun x hx hxi => hi ⟨x, hx, hxi⟩
    rw [habsent i hi', habsent' i hi']

/-- **A line that tells a record is one line**, however its ids are written. -/
theorem lineFeed_notMem (h : r.ToldBy line) : '\n' ∉ line.toList := by
  obtain ⟨texts, rfl, hshows, -⟩ := h
  rw [Kind.toList_lineOf, List.cons_append, List.mem_cons, List.mem_append, List.mem_cons,
    List.mem_flatMap]
  rintro (hopen | htag | hclose | ⟨column, hcolumn, hmem⟩)
  · exact absurd hopen (by decide)
  · exact (Kind.char_of_mem_tag htag).2 rfl
  · exact absurd hclose (by decide)
  · rcases List.mem_append.mp hmem with hblank | hmem
    · exact absurd hblank (by decide)
    · exact (Kind.char_of_mem_column (fun x hx => ⟨_, hshows x hx⟩) hcolumn hmem).2 rfl

end Record.ToldBy

end ScanAudit
