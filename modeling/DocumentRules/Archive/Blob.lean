import DocumentRules.Archive.Codec
import DocumentRules.Archive.Digest

/-!
# Archived entries

An archived entry is a blob: a header of 32 bytes and a payload. The header holds a magic word, the
version of the format, the version of the engine, flags that are not in use, the length of the
payload and the first 16 bytes of its digest. What follows the payload is ignored.

A blob is checked in this order: that the header is complete, the magic word, the version of the
format, that the payload is complete, its checksum, and that it can be read. `decode?` further asks
that the payload state the right number of rules and that every field name agree with its kind: a
built-in kind with its keyword, a form field with no keyword. `isFresh?` asks nothing further and
tells whether the blob was made from a given text.
-/

set_option autoImplicit false
set_option relaxedAutoImplicit false

namespace DocumentRules.Archive

open Text Condition Report

/-- What is inconsistent in a payload. -/
inductive Inconsistency where
  /-- The number of rules is not the stated one. -/
  | ruleCount (stated actual : Nat)
  /-- A field in a rule has a name that does not agree with its kind. -/
  | fieldName (rule : Nat) (field : Field)
  deriving DecidableEq, Repr

/-- Why a blob is refused. -/
inductive BlobError where
  | badMagic
  | incompatibleVersion (version : Nat)
  | checksumMismatch
  | lengthMismatch (expected actual : Nat)
  /-- The payload cannot be read. -/
  | undecodable
  | inconsistent (cause : Inconsistency)
  deriving DecidableEq, Repr

/-- The first bytes of every blob. -/
def magic : Bytes := [0x44, 0x51, 0x52, 0x59]

/-- The version of the format. -/
def formatVersion : Nat := 1

/-- The version of the engine, which no reader looks at. -/
def engineVersion : Nat := 1

/-- The length of a header. -/
def headerLength : Nat := 32

/-- The length of a checksum. -/
def checksumLength : Nat := 16

/-- The wording of an inconsistency. -/
def Inconsistency.message : Inconsistency → String
  | .ruleCount stated actual =>
    "metadata says " ++ toString stated ++ " rules but payload has " ++ toString actual
  | .fieldName rule field =>
    "rule #" ++ toString rule ++ ": field '" ++ field.name ++ "' does not match kind " ++
      field.kind.label

/-- The wording of an error. -/
def BlobError.message : BlobError → String
  | .badMagic => "not a docquery binary: invalid magic bytes"
  | .incompatibleVersion version =>
    "incompatible format version: blob is v" ++ toString version ++ ", engine supports v" ++
      toString formatVersion
  | .checksumMismatch => "integrity check failed: BLAKE3 checksum mismatch"
  | .lengthMismatch expected actual =>
    "payload length mismatch: expected " ++ toString expected ++ " bytes, got " ++ toString actual
  | .undecodable => "failed to decode payload"
  | .inconsistent cause => "validation failed: " ++ cause.message

/-! ### Writing -/

/-- The checksum of a payload. -/
def checksum (payload : Bytes) : Bytes := (digest payload).take checksumLength

/-- The digest of the text that an entry is made from. -/
def sourceDigest (source : String) : Bytes := digest (encodeText source)

/-- The header of a payload. -/
def header (payload : Bytes) : Bytes :=
  magic ++ littleEndian 2 formatVersion ++ littleEndian 2 engineVersion ++ littleEndian 4 0 ++
    littleEndian 4 payload.length ++ checksum payload

/-- The payload of an entry that was made from a text, if the text is known. -/
def payloadOf (entry : Entry) (source? : Option String) : Payload :=
  ⟨entry.rules.length, source?.map sourceDigest, entry⟩

/-- The blob of an entry that was made from a text, if the text is known. -/
def encode (entry : Entry) (source? : Option String) : Bytes :=
  let payload := writePayload (payloadOf entry source?)
  header payload ++ payload

/-! ### Reading -/

/-- The bytes of a blob from a place on. -/
def slice (start length : Nat) (blob : Bytes) : Bytes := (blob.drop start).take length

/-- The version of the format that a blob states. -/
def statedVersion (blob : Bytes) : Nat := ofLittleEndian (slice 4 2 blob)

/-- The length of the payload that a blob states. -/
def statedLength (blob : Bytes) : Nat := ofLittleEndian (slice 12 4 blob)

/-- The checksum that a blob states. -/
def statedChecksum (blob : Bytes) : Bytes := slice 16 checksumLength blob

/-- The payload of a blob whose header and checksum are in order. -/
def checkedPayload? (blob : Bytes) : Except BlobError Payload :=
  if blob.length < headerLength then .error (.lengthMismatch headerLength blob.length)
  else if blob.take magic.length ≠ magic then .error .badMagic
  else if statedVersion blob ≠ formatVersion then .error (.incompatibleVersion (statedVersion blob))
  else if blob.length < headerLength + statedLength blob then
    .error (.lengthMismatch (statedLength blob) (blob.length - headerLength))
  else
    let payload := slice headerLength (statedLength blob) blob
    if checksum payload ≠ statedChecksum blob then .error .checksumMismatch
    else
      match readPayload payload with
      | some (payload, _) => .ok payload
      | none => .error .undecodable

/-- Whether the name of a field agrees with its kind. -/
def isConsistent (field : Field) : Bool :=
  match field.kind.keyword? with
  | some keyword => field.name == keyword
  | none => (FieldKind.ofKeyword? field.name).isNone

/-- The first field of a condition whose name does not agree with its kind. -/
def inconsistentField? (condition : Condition) : Option Field :=
  (condition.comparisons.map Comparison.field).find? fun field ↦ !isConsistent field

/-- The first inconsistent field of some rules, with the index of its rule from `index` on. -/
def inconsistentRule? (index : Nat) : List Rule → Option (Nat × Field)
  | [] => none
  | rule :: rest =>
    match inconsistentField? rule.condition with
    | some field => some (index, field)
    | none => inconsistentRule? (index + 1) rest

/-- What is inconsistent in a payload. -/
def Payload.inconsistency? (payload : Payload) : Option Inconsistency :=
  let actual := payload.entry.rules.length
  if payload.ruleCount ≠ actual then some (.ruleCount payload.ruleCount actual)
  else (inconsistentRule? 0 payload.entry.rules).map fun (rule, field) ↦ .fieldName rule field

/-- The entry of a payload that is consistent. -/
def Payload.checkedEntry (payload : Payload) : Except BlobError Entry :=
  match payload.inconsistency? with
  | some cause => .error (.inconsistent cause)
  | none => .ok payload.entry

/-- The entry in a blob. -/
def decode? (blob : Bytes) : Except BlobError Entry := do
  (← checkedPayload? blob).checkedEntry

/-- Whether a blob was made from a text. -/
def isFresh? (blob : Bytes) (source : String) : Except BlobError Bool := do
  return (← checkedPayload? blob).sourceDigest? == some (sourceDigest source)

end DocumentRules.Archive
