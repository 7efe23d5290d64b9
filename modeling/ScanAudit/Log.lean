import ScanAudit.Record

/-!
# Logs

A log is the sequence of the records of one scan pass, in the order of the events. It
only ever grows at its end. Everything said about a log is said through its list of
records, `ScanAudit.Log.toList`.
-/

namespace ScanAudit

/-- **A log of records**, oldest event first. -/
structure Log where
  /-- The records in the order in which they came in. -/
  records : Array Record
deriving DecidableEq

namespace Log

/-- The log of a pass that has not reported anything. -/
def empty : Log :=
  ⟨#[]⟩

/-- The records in order, as a list. -/
def toList (log : Log) : List Record :=
  log.records.toList

/-- The log that holds the given records. -/
def ofList (records : List Record) : Log :=
  ⟨records.toArray⟩

/-- The log with one more record at its end. -/
def push (log : Log) (r : Record) : Log :=
  ⟨log.records.push r⟩

/-- The log with more records at its end. -/
def append (log : Log) (records : List Record) : Log :=
  ⟨log.records ++ records.toArray⟩

/-- How many records the log holds. -/
def size (log : Log) : Nat :=
  log.records.size

/-- Whether nothing has been recorded. -/
def isEmpty (log : Log) : Bool :=
  log.records.isEmpty

/-- The record at a position, none past the end. -/
def get? (log : Log) (index : Nat) : Option Record :=
  log.records[index]?

/-- The newest record. -/
def last? (log : Log) : Option Record :=
  log.records.back?

@[simp] theorem toList_empty : empty.toList = [] := rfl

@[simp] theorem toList_ofList (records : List Record) : (ofList records).toList = records := rfl

@[simp] theorem toList_push (log : Log) (r : Record) :
    (log.push r).toList = log.toList ++ [r] := by
  simp [push, toList]

@[simp] theorem toList_append (log : Log) (records : List Record) :
    (log.append records).toList = log.toList ++ records := by
  simp [append, toList]

@[simp] theorem length_toList (log : Log) : log.toList.length = log.size := by
  simp [toList, size]

@[simp] theorem getElem?_toList (log : Log) (index : Nat) :
    log.toList[index]? = log.get? index := by
  simp [toList, get?]

/-- A log is known by its records. -/
theorem ext_toList {a b : Log} (h : a.toList = b.toList) : a = b := by
  cases a with
  | mk ra => cases b with
    | mk rb => exact congrArg Log.mk (Array.toList_inj.mp h)

end Log

end ScanAudit
