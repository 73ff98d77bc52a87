/-!
# UTF-8

Texts are stored as UTF-8. `encodeText` writes a text. `decodeText?` reads bytes that are
well-formed and refuses all others; `decodeLossy` reads any bytes and puts the replacement
character U+FFFD in the place of each ill-formed run, where a run is as long as it can be while it
still begins a well-formed sequence. Both readers are the same scan, one byte at a time, and differ
only in what they make of the `none` that the scan emits for an ill-formed run.
-/

set_option autoImplicit false
set_option relaxedAutoImplicit false

namespace DocumentRules.Text

/-- A sequence of bytes. -/
abbrev Bytes : Type := List UInt8

/-- The bytes of a character. -/
def encodeCharacter (character : Char) : Bytes :=
  let code := character.toNat
  let tail (shifted : Nat) : UInt8 := UInt8.ofNat (0x80 + shifted % 0x40)
  if code < 0x80 then [UInt8.ofNat code]
  else if code < 0x800 then [UInt8.ofNat (0xC0 + code / 0x40), tail code]
  else if code < 0x10000 then
    [UInt8.ofNat (0xE0 + code / 0x1000), tail (code / 0x40), tail code]
  else
    [UInt8.ofNat (0xF0 + code / 0x40000), tail (code / 0x1000), tail (code / 0x40), tail code]

/-- The bytes of a text. -/
def encodeText (text : String) : Bytes :=
  text.toList.flatMap encodeCharacter

/-- Where a scan stands inside a character: the bytes still owed, at least one, the bounds of the
next one, and the code point read so far. -/
structure PartialCharacter where
  owed : Nat
  low : UInt8
  high : UInt8
  code : Nat

/-- What the first byte of a character can be followed by. -/
def afterLead? (lead : UInt8) : Option PartialCharacter :=
  if 0xC2 ≤ lead ∧ lead ≤ 0xDF then some ⟨1, 0x80, 0xBF, lead.toNat - 0xC0⟩
  else if lead = 0xE0 then some ⟨2, 0xA0, 0xBF, 0⟩
  else if lead = 0xED then some ⟨2, 0x80, 0x9F, 0xD⟩
  else if 0xE1 ≤ lead ∧ lead ≤ 0xEF then some ⟨2, 0x80, 0xBF, lead.toNat - 0xE0⟩
  else if lead = 0xF0 then some ⟨3, 0x90, 0xBF, 0⟩
  else if 0xF1 ≤ lead ∧ lead ≤ 0xF3 then some ⟨3, 0x80, 0xBF, lead.toNat - 0xF0⟩
  else if lead = 0xF4 then some ⟨3, 0x80, 0x8F, 4⟩
  else none

/-- A scan between two bytes: the characters read so far, the latest first and `none` for an
ill-formed run, and the character that the scan is inside of, if it is inside one. -/
structure Scan where
  emitted : List (Option Char)
  inside : Option PartialCharacter

/-- The scan after a byte that begins a character. -/
def Scan.start (emitted : List (Option Char)) (byte : UInt8) : Scan :=
  if byte < 0x80 then ⟨some (Char.ofNat byte.toNat) :: emitted, none⟩
  else
    match afterLead? byte with
    | some inside => ⟨emitted, some inside⟩
    | none => ⟨none :: emitted, none⟩

/-- The scan after one more byte. A byte that cannot continue the present character ends an
ill-formed run and begins a character of its own. -/
def Scan.step (scan : Scan) (byte : UInt8) : Scan :=
  match scan.inside with
  | none => Scan.start scan.emitted byte
  | some inside =>
    if inside.low ≤ byte ∧ byte ≤ inside.high then
      let code := inside.code * 0x40 + (byte.toNat - 0x80)
      if inside.owed = 1 then ⟨some (Char.ofNat code) :: scan.emitted, none⟩
      else ⟨scan.emitted, some ⟨inside.owed - 1, 0x80, 0xBF, code⟩⟩
    else Scan.start (none :: scan.emitted) byte

/-- The characters of a finished scan, the latest first; a character cut short is ill-formed. -/
def Scan.finish (scan : Scan) : List (Option Char) :=
  match scan.inside with
  | none => scan.emitted
  | some _ => none :: scan.emitted

/-- The characters of some bytes, `none` for an ill-formed run. -/
def scanBytes (bytes : Bytes) : List (Option Char) :=
  (bytes.foldl Scan.step ⟨[], none⟩).finish.reverse

/-- The text of well-formed bytes. -/
def decodeText? (bytes : Bytes) : Option String :=
  let characters := scanBytes bytes
  if characters.all Option.isSome then some (String.ofList (characters.filterMap id)) else none

/-- The text of any bytes, the replacement character standing for each ill-formed run. -/
def decodeLossy (bytes : Bytes) : List Char :=
  (scanBytes bytes).map fun character? ↦ character?.getD '\uFFFD'

end DocumentRules.Text
