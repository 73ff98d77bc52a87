import DocumentRules.Archive.Varint
import DocumentRules.Report.Entry

/-!
# The payload of an archived entry

An entry is archived with all its rules, before or after expansion. Its parts are written one after
the other: a text as its length and its bytes, a list as its length and its members, an alternative
as its number and its parts, and a value that may be missing as a byte 0, or as a byte 1 and the
value. In front stand the number of rules and, it may be, the digest of the text the entry was made
from.

Each reader undoes the writer above it. It takes what it reads from the front of some bytes and
hands on the rest; there is no answer if the bytes do not begin with what it reads. A reader accepts
more than its writer writes only in that a number may be wider than it needs to be.
-/

set_option autoImplicit false
set_option relaxedAutoImplicit false

namespace DocumentRules.Archive

open Text Condition Report

/-- A reader of something at the front of some bytes. -/
abbrev Reader (α : Type) : Type := Bytes → Option (α × Bytes)

/-! ### Texts, options and lists -/

/-- Writes a text. -/
def writeText (text : String) : Bytes :=
  let bytes := encodeText text
  writeNumber bytes.length ++ bytes

/-- Reads a text. -/
def readText : Reader String := fun bytes ↦ do
  let (length, rest) ← readNumber? lengthWidth bytes
  let (content, rest) ← takeBytes? length rest
  let text ← decodeText? content
  some (text, rest)

/-- Writes a value that may be missing. -/
def writeOption {α : Type} (write : α → Bytes) : Option α → Bytes
  | none => [0]
  | some value => 1 :: write value

/-- Reads a value that may be missing. -/
def readOption {α : Type} (read : Reader α) : Reader (Option α)
  | [] => none
  | first :: rest =>
    if first = 0 then some (none, rest)
    else if first = 1 then (read rest).map fun (value, rest) ↦ (some value, rest)
    else none

/-- Writes a truth value. -/
def writeTruth (value : Bool) : Bytes := [if value then 1 else 0]

/-- Reads a truth value. -/
def readTruth : Reader Bool
  | [] => none
  | first :: rest =>
    if first = 0 then some (false, rest)
    else if first = 1 then some (true, rest)
    else none

/-- Writes a list. -/
def writeList {α : Type} (write : α → Bytes) (members : List α) : Bytes :=
  writeNumber members.length ++ members.flatMap write

/-- Reads a number of members. -/
def readMembers {α : Type} (read : Reader α) : Nat → Reader (List α)
  | 0, bytes => some ([], bytes)
  | count + 1, bytes => do
    let (member, rest) ← read bytes
    let (members, rest) ← readMembers read count rest
    some (member :: members, rest)

/-- Reads a list. -/
def readList {α : Type} (read : Reader α) : Reader (List α) := fun bytes ↦ do
  let (count, rest) ← readNumber? lengthWidth bytes
  readMembers read count rest

/-- Writes one of finitely many values, by its place among them. -/
def writeMember {α : Type} [BEq α] (all : List α) (member : α) : Bytes :=
  writeNumber (all.idxOf member)

/-- Reads one of finitely many values. -/
def readMember {α : Type} (all : List α) : Reader α := fun bytes ↦ do
  let (index, rest) ← readNumber? variantWidth bytes
  let member ← all[index]?
  some (member, rest)

/-! ### Conditions -/

/-- Writes a comparison. -/
def writeComparison (comparison : Comparison) : Bytes :=
  writeText comparison.field.name ++ writeMember FieldKind.all comparison.field.kind ++
    writeMember Operator.all comparison.operator ++ writeText comparison.value.literal ++
    writeOption writeText comparison.value.commit?

/-- Reads a comparison. -/
def readComparison : Reader Comparison := fun bytes ↦ do
  let (name, rest) ← readText bytes
  let (kind, rest) ← readMember FieldKind.all rest
  let (operator, rest) ← readMember Operator.all rest
  let (literal, rest) ← readText rest
  let (commit?, rest) ← readOption readText rest
  some (⟨⟨name, kind⟩, operator, ⟨literal, commit?⟩⟩, rest)

/-- Writes a token. -/
def writeToken : Token → Bytes
  | .comparison statement => writeNumber 0 ++ writeComparison statement
  | .connective .and => writeNumber 1
  | .connective .or => writeNumber 2
  | .opening => writeNumber 3
  | .closing => writeNumber 4
  | .literal value => writeNumber 5 ++ writeTruth value
  | .error message => writeNumber 6 ++ writeText message

/-- Reads a token. -/
def readToken : Reader Token := fun bytes ↦ do
  let (variant, rest) ← readNumber? variantWidth bytes
  match variant with
  | 0 => (readComparison rest).map fun (statement, rest) ↦ (.comparison statement, rest)
  | 1 => some (.connective .and, rest)
  | 2 => some (.connective .or, rest)
  | 3 => some (.opening, rest)
  | 4 => some (.closing, rest)
  | 5 => (readTruth rest).map fun (value, rest) ↦ (.literal value, rest)
  | 6 => (readText rest).map fun (message, rest) ↦ (.error message, rest)
  | _ => none

/-! ### Rules and entries -/

/-- Writes a rule. -/
def writeRule : Rule → Bytes
  | .draft written =>
    writeNumber 0 ++ writeList writeToken written.condition ++
      writeOption writeText written.extensionScope? ++ writeOption writeText written.bounds?
  | .expanded condition => writeNumber 1 ++ writeList writeToken condition

/-- Reads a rule. -/
def readRule : Reader Rule := fun bytes ↦ do
  let (variant, rest) ← readNumber? variantWidth bytes
  match variant with
  | 0 =>
    let (condition, rest) ← readList readToken rest
    let (extensionScope?, rest) ← readOption readText rest
    let (bounds?, rest) ← readOption readText rest
    some (.draft ⟨condition, extensionScope?, bounds?⟩, rest)
  | 1 => (readList readToken rest).map fun (condition, rest) ↦ (.expanded condition, rest)
  | _ => none

/-- What is archived: an entry, with the number of its rules and the digest of its source. -/
structure Payload where
  ruleCount : Nat
  sourceDigest? : Option Bytes
  entry : Entry
  deriving DecidableEq

/-- The length of a digest. -/
def digestLength : Nat := 32

/-- Writes a payload. -/
def writePayload (payload : Payload) : Bytes :=
  writeNumber payload.ruleCount ++ writeOption id payload.sourceDigest? ++
    writeText payload.entry.name ++ writeOption writeText payload.entry.bounds? ++
    writeList writeRule payload.entry.rules

/-- Reads a payload. -/
def readPayload : Reader Payload := fun bytes ↦ do
  let (ruleCount, rest) ← readNumber? lengthWidth bytes
  let (sourceDigest?, rest) ← readOption (takeBytes? digestLength) rest
  let (name, rest) ← readText rest
  let (bounds?, rest) ← readOption readText rest
  let (rules, rest) ← readList readRule rest
  some (⟨ruleCount, sourceDigest?, ⟨name, bounds?, rules⟩⟩, rest)

end DocumentRules.Archive
