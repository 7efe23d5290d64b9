import Mathlib.Data.List.Infix
import ScanAudit.Check.Violation
import ScanAudit.Proofs.Listing

/-!
# Messages tell violations

The message of a violation has every detail of it, and nothing that could be taken for
another violation: two violations with one message are equal
(`ScanAudit.Violation.message_inj`). The messages are sentences with places for the details,
and three things make them unambiguous.

* **How a message begins.** There are six beginnings (`ScanAudit.Violation.Opening`). Several
  of them share their first words, but none is the beginning of another one, so they are told
  apart in spite of what follows them. An opening tells the constructor, with one exception:
  the two violations that are about the branches of a region begin alike.
* **Where a number ends.** Numbers are written in digits, and the words behind a number begin
  with none (`ScanAudit.Decimal.plain_append_inj`). This also sets the two kinds of
  branch violations apart, since only one of them goes on with a number.
* **What comes last.** A record may hold any of the words of a message, and a list of regions
  may be of any length. Both are the last part of their messages, and each is known by its
  text.
-/

namespace ScanAudit

/-! ### Texts on one line -/

/-- **A printable text** has nothing but printable ASCII in it. -/
def Printable (text : String) : Prop :=
  text.toList.all Glyphless.plainAscii

instance : DecidablePred Printable := fun _ => inferInstanceAs (Decidable (_ = true))

theorem printable_iff {text : String} :
    Printable text ↔ ∀ c ∈ text.toList, Glyphless.plainAscii c :=
  List.all_eq_true

@[simp] theorem printable_append {a b : String} :
    Printable (a ++ b) ↔ Printable a ∧ Printable b := by
  simp only [printable_iff, String.toList_append, List.forall_mem_append]

/-- A printable text stands on one line. -/
theorem Printable.not_mem_of_mem_lineBreaks {text : String} (h : Printable text) {c : Char}
    (hc : c ∈ Glyphless.lineBreaks) : c ∉ text.toList :=
  fun hmem => Glyphless.not_plainAscii_of_mem_lineBreaks hc (printable_iff.mp h c hmem)

/-- A printable text is the content of a line. -/
theorem Printable.isLine {text : String} (h : Printable text) :
    Delimited.IsLine (text ++ "\n") :=
  ⟨text.toList, h.not_mem_of_mem_lineBreaks (by decide), by simp⟩

@[simp] theorem Decimal.printable_plain (n : Nat) : Printable (plain n) :=
  printable_iff.mpr fun _ hc => Glyphless.plainAscii_of_isDigit (isDigit_of_mem_plain hc)

@[simp] theorem NodeId.printable_text (node : NodeId) : Printable node.text :=
  Decimal.printable_plain node.number

@[simp] theorem Record.printable_text (r : Record) : Printable r.text :=
  printable_iff.mpr fun _ => plainAscii_of_mem_text

/-! ### Numbers in a sentence -/

/-- The words do not begin with a digit, and there are some. -/
def AfterNumber (words : String) : Prop :=
  words.toList.head?.any fun c => !c.isDigit

instance : DecidablePred AfterNumber := fun _ => inferInstanceAs (Decidable (_ = true))

/-- What stands after a number begins with something that is no digit. -/
theorem AfterNumber.exists_cons {words : String} (h : AfterNumber words) :
    ∃ c rest, words.toList = c :: rest ∧ ¬c.isDigit := by
  rw [AfterNumber] at h
  rcases hwords : words.toList with _ | ⟨c, rest⟩
  · simp [hwords] at h
  · exact ⟨c, rest, rfl, by simpa [hwords] using h⟩

namespace Decimal

variable {m n : Nat} {words x y : String}

/-- **A number ends where the words behind it begin.** -/
theorem plain_append_inj (hwords : AfterNumber words)
    (h : plain m ++ (words ++ x) = plain n ++ (words ++ y)) : m = n ∧ x = y := by
  obtain ⟨c, rest, hcons, hc⟩ := hwords.exists_cons
  have hdigits (k : Nat) : c ∉ (plain k).toList := fun hmem => hc (isDigit_of_mem_plain hmem)
  have hchars := congrArg String.toList h
  simp only [String.toList_append, hcons, List.cons_append] at hchars
  obtain ⟨hnumber, hrest⟩ := Delimited.append_cons_inj (hdigits m) (hdigits n) hchars
  refine ⟨plain_injective (String.toList_inj.mp hnumber), String.toList_inj.mp ?_⟩
  exact List.append_cancel_left hrest

/-- **A number is not taken for words.** -/
theorem plain_append_ne (hwords : AfterNumber words) : plain n ++ x ≠ words := by
  intro h
  obtain ⟨c, rest, hcons, hc⟩ := hwords.exists_cons
  rcases hplain : (plain n).toList with _ | ⟨d, digits⟩
  · exact plain_ne_nil n hplain
  · rw [← h, String.toList_append, hplain, List.cons_append] at hcons
    obtain ⟨rfl, -⟩ := List.cons.inj hcons
    exact hc (isDigit_of_mem_plain (n := n) (hplain ▸ List.mem_cons_self))

end Decimal

namespace NodeId

variable {a b : NodeId} {words x y : String}

/-- The text of a node ends where the words behind it begin. -/
theorem text_append_inj (hwords : AfterNumber words)
    (h : a.text ++ (words ++ x) = b.text ++ (words ++ y)) : a = b ∧ x = y := by
  obtain ⟨hnumber, hrest⟩ := Decimal.plain_append_inj hwords h
  exact ⟨text_injective (congrArg Decimal.plain hnumber), hrest⟩

/-- **Nodes in a row** are known by their texts, however many they are. -/
theorem intercalate_text_inj {nodes others : List NodeId}
    (h : ", ".intercalate (nodes.map text) = ", ".intercalate (others.map text)) :
    nodes = others := by
  have hparts (l : List NodeId) :
      ∀ part ∈ l.map fun node => node.text.toList, part ≠ [] ∧ ',' ∉ part := by
    intro part hpart
    obtain ⟨node, -, rfl⟩ := List.mem_map.mp hpart
    refine ⟨Decimal.plain_ne_nil node.number, fun hc => ?_⟩
    exact absurd (Decimal.isDigit_of_mem_plain hc) (by decide)
  have hchars : [',', ' '].intercalate (nodes.map fun node => node.text.toList) =
      [',', ' '].intercalate (others.map fun node => node.text.toList) := by
    simpa [Function.comp_def] using congrArg String.toList h
  have hlists := Delimited.intercalate_inj (hparts nodes) (hparts others) hchars
  exact (List.map_inj_right fun _ _ heq => text_injective (String.toList_inj.mp heq)).mp hlists

@[simp] theorem printable_intercalate_text (nodes : List NodeId) :
    Printable (", ".intercalate (nodes.map text)) := by
  rw [printable_iff]
  intro c hc
  rw [String.toList_intercalate] at hc
  rcases Delimited.mem_of_mem_intercalate hc with hsep | ⟨part, hpart, hc⟩
  · have hcomma : Printable ", " := by decide
    exact printable_iff.mp hcomma c hsep
  · obtain ⟨_, hmem, rfl⟩ := List.mem_map.mp hpart
    obtain ⟨node, -, rfl⟩ := List.mem_map.mp hmem
    exact printable_iff.mp node.printable_text c hc

end NodeId

namespace Violation

/-! ### How a message begins -/

/-- **The beginnings of messages.** -/
inductive Opening
  /-- A record was seen before. -/
  | repeated
  /-- A record does not name its region. -/
  | nameless
  /-- A region is closed inside another one. -/
  | crossed
  /-- Regions are not closed, the direction being that of the scan. -/
  | unclosed (d : Direction)
  /-- The branches of a region do not match. -/
  | branches
deriving DecidableEq

namespace Opening

/-- The words of a beginning. -/
def words : Opening → String
  | repeated => "duplicate call at index "
  | nameless => "parallel event at index "
  | crossed =>
    "parallel start and end events point to different parallel region ids: open region "
  | unclosed d => d.openKind.name ++ " events with no matching " ++ d.closeKind.name ++
      " for parallel region(s) with start node ids: "
  | branches => "parallel region "

/-- All beginnings. -/
def all : List Opening :=
  [repeated, nameless, crossed, unclosed .backward, unclosed .forward, branches]

theorem mem_all (o : Opening) : o ∈ all := by
  cases o with
  | unclosed d => cases d <;> decide
  | _ => decide

/-- **No beginning is the beginning of another one.** -/
theorem eq_of_isPrefix {o o' : Opening} (h : o.words.toList <+: o'.words.toList) : o = o' := by
  have hall : ∀ o ∈ all, ∀ o' ∈ all, o.words.toList <+: o'.words.toList → o = o' := by
    decide +kernel
  exact hall o o.mem_all o' o'.mem_all h

theorem printable_words (o : Opening) : Printable o.words := by
  have hall : ∀ o ∈ all, Printable o.words := by decide
  exact hall o o.mem_all

end Opening

/-- **How the message of a violation begins.** -/
def opening : Violation → Opening
  | duplicate .. => .repeated
  | missingRegion .. => .nameless
  | regionMismatch .. => .crossed
  | unclosedRegions _ d => .unclosed d
  | branchCounts .. | branchSideMissing .. => .branches

/-- **What follows the beginning** in the message of a violation. -/
def details : Violation → String
  | duplicate record firstIndex index =>
    Decimal.plain index ++ (" (first seen at " ++ (Decimal.plain firstIndex ++
      ("): " ++ record.text)))
  | missingRegion record index =>
    Decimal.plain index ++ (" has no parallel region id: " ++ record.text)
  | regionMismatch innermost closed index =>
    innermost.text ++ (", closed by event at index " ++ (Decimal.plain index ++
      (" for region " ++ closed.text)))
  | unclosedRegions regions _ => ", ".intercalate (regions.map NodeId.text)
  | branchCounts region starts ends =>
    region.text ++ (" has " ++ (Decimal.plain starts ++ (" branch start event(s) but " ++
      (Decimal.plain ends ++ (" branch end event(s)" ++ "")))))
  | branchSideMissing region missing =>
    region.text ++ (" has " ++ (missing.opposite.phrase ++ " event(s) but no " ++
      missing.phrase ++ " event(s)"))

theorem message_eq (v : Violation) : v.message = v.opening.words ++ v.details := by
  cases v <;> unfold message <;>
    simp only [opening, Opening.words, details, String.append_assoc, String.append_empty]

variable {v w : Violation}

/-- **A message tells its beginning**, and so what follows it. -/
theorem opening_eq_of_message (h : v.message = w.message) :
    v.opening = w.opening ∧ v.details = w.details := by
  have hbegins (u : Violation) : u.opening.words.toList <+: u.message.toList := by
    rw [message_eq, String.toList_append]
    exact List.prefix_append _ _
  have hopening : v.opening = w.opening := by
    rcases List.prefix_or_prefix_of_prefix (hbegins v) (h ▸ hbegins w) with hvw | hwv
    · exact Opening.eq_of_isPrefix hvw
    · exact (Opening.eq_of_isPrefix hwv).symm
  refine ⟨hopening, ?_⟩
  rw [message_eq, message_eq, hopening] at h
  exact (String.append_right_inj _).mp h

/-! ### What a message says -/

/-- The two violations about branches begin alike. Behind the region one of them goes on with a
number, and the other one with the name of a side. -/
theorem details_branchCounts_ne {region region' : NodeId} {starts ends : Nat}
    {missing : BranchSide} :
    (branchCounts region starts ends).details ≠ (branchSideMissing region' missing).details := by
  intro h
  obtain ⟨-, hrest⟩ := NodeId.text_append_inj (by decide) h
  have hside : AfterNumber (missing.opposite.phrase ++ " event(s) but no " ++
      missing.phrase ++ " event(s)") := by
    cases missing <;> decide
  exact Decimal.plain_append_ne hside (by simpa [String.append_assoc] using hrest)

/-- **The message of a violation tells the violation**: its kind, and all its details. -/
theorem message_inj (h : v.message = w.message) : v = w := by
  obtain ⟨hopening, hdetails⟩ := opening_eq_of_message h
  -- violations with different beginnings have been set apart, so few cases are left
  cases v with
  | duplicate record firstIndex index =>
    cases w with
    | duplicate record' firstIndex' index' =>
      obtain ⟨rfl, hrest⟩ := Decimal.plain_append_inj (by decide) hdetails
      obtain ⟨rfl, hrecord⟩ := Decimal.plain_append_inj (by decide) hrest
      rw [Record.text_inj hrecord]
    | _ => exact absurd hopening (by simp [opening])
  | missingRegion record index =>
    cases w with
    | missingRegion record' index' =>
      obtain ⟨rfl, hrecord⟩ := Decimal.plain_append_inj (by decide) hdetails
      rw [Record.text_inj hrecord]
    | _ => exact absurd hopening (by simp [opening])
  | regionMismatch innermost closed index =>
    cases w with
    | regionMismatch innermost' closed' index' =>
      obtain ⟨rfl, hrest⟩ := NodeId.text_append_inj (by decide) hdetails
      obtain ⟨rfl, hclosed⟩ := Decimal.plain_append_inj (by decide) hrest
      rw [NodeId.text_injective hclosed]
    | _ => exact absurd hopening (by simp [opening])
  | unclosedRegions regions d =>
    cases w with
    | unclosedRegions regions' d' =>
      obtain rfl : d = d' := by simpa [opening] using hopening
      rw [NodeId.intercalate_text_inj hdetails]
    | _ => exact absurd hopening (by simp [opening])
  | branchCounts region starts ends =>
    cases w with
    | branchCounts region' starts' ends' =>
      obtain ⟨rfl, hstarts⟩ := NodeId.text_append_inj (by decide) hdetails
      obtain ⟨rfl, hends⟩ := Decimal.plain_append_inj (by decide) hstarts
      obtain ⟨rfl, -⟩ := Decimal.plain_append_inj (by decide) hends
      rfl
    | branchSideMissing region' missing => exact absurd hdetails details_branchCounts_ne
    | _ => exact absurd hopening (by simp [opening])
  | branchSideMissing region missing =>
    cases w with
    | branchCounts region' starts ends => exact absurd hdetails.symm details_branchCounts_ne
    | branchSideMissing region' missing' =>
      obtain ⟨rfl, hrest⟩ := NodeId.text_append_inj (by decide) hdetails
      have hside : missing = missing' := by
        revert hrest
        cases missing <;> cases missing' <;> decide
      rw [hside]
    | _ => exact absurd hopening (by simp [opening])

/-- **The message of a violation stands on one line.** -/
theorem printable_message (v : Violation) : Printable v.message := by
  rw [message_eq, printable_append]
  refine ⟨v.opening.printable_words, ?_⟩
  cases v with
  | branchSideMissing region missing => cases missing <;> simp +decide [details]
  | _ => simp +decide [details]

end Violation

end ScanAudit
