import ScanAudit.Text.Layout
import ScanAudit.Text.Quoted

/-!
# Node numbers

The graph under scan names each of its nodes by a decimal id, which arrives as text.
A node number is the value of such an id: a natural number of at most 32 bits. The
text may carry one plus sign and any number of leading zeros; a minus sign is refused,
before zero too. So several ids name one node, and equality of nodes is equality of
numbers, not of texts.

"No node" is `none` of `Option ScanAudit.NodeId`, never a number.
-/

namespace ScanAudit

/-- **A node number**: the value of a node's decimal id. -/
structure NodeId where
  /-- The number itself. -/
  number : Nat
  /-- A node number has at most 32 bits. -/
  inRange : number < 4294967296
deriving DecidableEq

/-- **A malformed id**: a text that is no decimal id of a node, kept as it arrived. -/
structure MalformedId where
  /-- The text that was refused. -/
  id : String
deriving DecidableEq

/-- The message names the id in quotes, so that odd characters in it show. -/
def MalformedId.message (e : MalformedId) : String :=
  "node id " ++ Quoted.quote e.id ++ " is not a decimal node identifier"

namespace NodeId

/-- Nodes are ordered by number. -/
instance : Ord NodeId where
  compare a b := compare a.number b.number

/-- An id without its one optional plus sign. -/
def unsigned : List Char → List Char
  | '+' :: rest => rest
  | cs => cs

/-- The number an id stands for, when it is a numeral of at most 32 bits after its
sign. -/
def read? (id : String) : Option NodeId :=
  match Decimal.value? (unsigned id.toList) with
  | some n => if h : n < 4294967296 then some ⟨n, h⟩ else none
  | none => none

/-- **Reading an id**: the node it names, or the id itself as malformed. -/
def parse (id : String) : Except MalformedId NodeId :=
  match read? id with
  | some node => .ok node
  | none => .error ⟨id⟩

/-- Reading the id of a node that may be absent; an absent node needs no id. -/
def parseOptional : Option String → Except MalformedId (Option NodeId)
  | none => .ok none
  | some id => (parse id).map some

/-- The text of a node number is its plain numeral. -/
def text (node : NodeId) : String :=
  Decimal.plain node.number

/-- The text of a node that may be absent: a dash stands for no node. -/
def optionalText : Option NodeId → String
  | none => "-"
  | some node => node.text

/-- **The text of a node number names the node** it was written for. -/
theorem parse_text (node : NodeId) : parse node.text = .ok node := by
  have hsign :
      unsigned (Decimal.plain node.number).toList = (Decimal.plain node.number).toList := by
    have hdigits := Decimal.all_isDigit_plain node.number
    unfold unsigned
    split
    · next h => simp [h] at hdigits
    · rfl
  simp [parse, read?, text, hsign, Decimal.value?_plain, node.inRange]

/-- Distinct node numbers have distinct texts. -/
theorem text_injective {a b : NodeId} (h : a.text = b.text) : a = b := by
  have ha := parse_text a
  rw [h, parse_text b] at ha
  exact (Except.ok.inj ha).symm

end NodeId

end ScanAudit
