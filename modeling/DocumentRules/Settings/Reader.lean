import DocumentRules.Settings.Settings
import DocumentRules.Text.Integer
import DocumentRules.Text.Segments
import DocumentRules.Text.Utf8

/-!
# Reading settings

Settings are kept as a TOML document. Both are top-level keys whose values fit on one line, a truth
value and an unsigned integer, and nothing else may be in the document; so every document that gives
settings consists of blank lines, remarks and at most one line for each key. A key may be bare or in
quotation marks. A document that is not of this form is malformed, whatever else TOML would make of
it. Settings that are not given keep their defaults.

Lines end in a line feed, with or without a carriage return before it; a carriage return anywhere
else is refused. A byte-order mark may stand at the very start.
-/

set_option autoImplicit false
set_option relaxedAutoImplicit false

namespace DocumentRules.Settings

open Text

/-- The value of a setting. -/
inductive Scalar where
  | truth (value : Bool)
  | number (value : Nat)
  deriving DecidableEq, Repr

/-- A key with its value. -/
structure Assignment where
  key : List Char
  value : Scalar
  deriving DecidableEq, Repr

/-- The space that may stand within a line. -/
def isSpace (character : Char) : Bool := character == ' ' || character == '\t'

/-- A line without the space at its start. -/
def skipSpace (line : List Char) : List Char := line.dropWhile isSpace

/-- The characters that may stand in a remark: all but the control characters other than the
tabulator. -/
def isRemarkCharacter (character : Char) : Bool :=
  character == '\t' || (0x20 ≤ character.toNat && character.toNat != 0x7F)

/-- Whether what is left of a line is nothing or a remark. -/
def isRemark : List Char → Bool
  | [] => true
  | '#' :: remark => remark.all isRemarkCharacter
  | _ => false

/-! ### Keys -/

/-- The characters of a bare key. -/
def isBareKeyCharacter (character : Char) : Bool :=
  character.isAlphanum || character == '_' || character == '-'

/-- The character with a code point written in hexadecimal, if there is one. -/
def readCodePoint? (digits : List Char) : Option Char :=
  (readMagnitude? 16 0x10FFFF 0 digits).bind fun code ↦
    if code.isValidChar then some (Char.ofNat code) else none

/-- The rest of a key in double quotation marks, after the characters `read` in reverse, and what
follows it. -/
def readQuotedKey? (read : List Char) : List Char → Option (List Char × List Char)
  | '"' :: rest => some (read.reverse, rest)
  | '\\' :: 'b' :: rest => readQuotedKey? ('\x08' :: read) rest
  | '\\' :: 't' :: rest => readQuotedKey? ('\t' :: read) rest
  | '\\' :: 'n' :: rest => readQuotedKey? ('\n' :: read) rest
  | '\\' :: 'f' :: rest => readQuotedKey? ('\x0C' :: read) rest
  | '\\' :: 'r' :: rest => readQuotedKey? ('\r' :: read) rest
  | '\\' :: '"' :: rest => readQuotedKey? ('"' :: read) rest
  | '\\' :: '\\' :: rest => readQuotedKey? ('\\' :: read) rest
  | '\\' :: 'u' :: d₁ :: d₂ :: d₃ :: d₄ :: rest =>
    match readCodePoint? [d₁, d₂, d₃, d₄] with
    | some character => readQuotedKey? (character :: read) rest
    | none => none
  | '\\' :: 'U' :: d₁ :: d₂ :: d₃ :: d₄ :: d₅ :: d₆ :: d₇ :: d₈ :: rest =>
    match readCodePoint? [d₁, d₂, d₃, d₄, d₅, d₆, d₇, d₈] with
    | some character => readQuotedKey? (character :: read) rest
    | none => none
  | '\\' :: _ => none
  | character :: rest => readQuotedKey? (character :: read) rest
  | [] => none

/-- The key at the start of a line, and what follows it. -/
def readKey? : List Char → Option (List Char × List Char)
  | '"' :: rest => readQuotedKey? [] rest
  | '\'' :: rest => cutFirst '\'' rest
  | line =>
    let key := line.takeWhile isBareKeyCharacter
    if key.isEmpty then none else some (key, line.dropWhile isBareKeyCharacter)

/-! ### Values -/

/-- The number that digits of a base denote, where an underscore may stand between two digits. -/
def readGrouped? (base : Nat) (digits : List Char) : Option Nat :=
  let groups := splitOn '_' digits
  if groups.any List.isEmpty then none
  else readMagnitude? base (integerLimit - 1) 0 groups.flatten

/-- The number that decimal digits denote. Only zero itself begins with a zero. -/
def readPlain? : List Char → Option Nat
  | ['0'] => some 0
  | '0' :: _ => none
  | digits => readGrouped? 10 digits

/-- The unsigned number that a word denotes. -/
def readNumber? : List Char → Option Nat
  | '0' :: 'x' :: digits => readGrouped? 16 digits
  | '0' :: 'o' :: digits => readGrouped? 8 digits
  | '0' :: 'b' :: digits => readGrouped? 2 digits
  | '+' :: digits => readPlain? digits
  | '-' :: digits => (readPlain? digits).filter (· == 0)
  | digits => readPlain? digits

/-- The value that a word denotes. -/
def readScalar? (word : List Char) : Option Scalar :=
  if word = "true".toList then some (.truth true)
  else if word = "false".toList then some (.truth false)
  else (readNumber? word).map .number

/-! ### Lines -/

/-- What a line gives: an assignment, or nothing if it is blank or a remark. The line is malformed
if there is no answer at all. -/
def readLine? (line : List Char) : Option (Option Assignment) :=
  let line := skipSpace line
  if isRemark line then some none
  else do
    let (key, rest) ← readKey? line
    let '=' :: rest := skipSpace rest | none
    let isOutside (character : Char) : Bool := !isSpace character && character != '#'
    let rest := skipSpace rest
    let value ← readScalar? (rest.takeWhile isOutside)
    if isRemark (skipSpace (rest.dropWhile isOutside)) then some (some ⟨key, value⟩) else none

/-- A line without the carriage return before its line feed. -/
def dropReturn (line : List Char) : List Char :=
  if line.getLast? = some '\r' then line.dropLast else line

/-- The lines of a document. What follows the last line feed has no line feed of its own. -/
def documentLines (document : List Char) : List (List Char) :=
  let pieces := splitOn '\n' document
  pieces.dropLast.map dropReturn ++ pieces.drop (pieces.length - 1)

/-- A document without a byte-order mark at its start. -/
def dropMark : List Char → List Char
  | '\uFEFF' :: rest => rest
  | document => document

/-! ### Settings -/

/-- What a document gives, as far as it has been read. -/
structure Given where
  rememberPathSets? : Option Bool := none
  maxTextBytes? : Option Nat := none
  deriving DecidableEq, Repr

/-- What is given after one more assignment. A key is known, is given once, and has a value of its
own type. -/
def Given.assign? (given : Given) (assignment : Assignment) : Option Given :=
  if assignment.key = "cache_version_sets".toList then
    match assignment.value, given.rememberPathSets? with
    | .truth value, none => some { given with rememberPathSets? := some value }
    | _, _ => none
  else if assignment.key = "max_text_bytes".toList then
    match assignment.value, given.maxTextBytes? with
    | .number value, none => some { given with maxTextBytes? := some value }
    | _, _ => none
  else none

/-- What is given after some more lines. -/
def Given.read? (given : Given) : List (List Char) → Option Given
  | [] => some given
  | line :: rest =>
    match readLine? line with
    | none => none
    | some none => given.read? rest
    | some (some assignment) => (given.assign? assignment).bind fun next ↦ next.read? rest

/-- The settings, what is not given keeping its default. -/
def Given.settings (given : Given) : Settings :=
  let defaults : Settings := {}
  { rememberPathSets := given.rememberPathSets?.getD defaults.rememberPathSets
    maxTextBytes := given.maxTextBytes?.getD defaults.maxTextBytes }

/-- The settings that a document gives. -/
def read (document : String) : Except SettingsError Settings :=
  match ({} : Given).read? (documentLines (dropMark document.toList)) with
  | some given => .ok given.settings
  | none => .error .malformed

/-- The settings in a file, which may be missing. -/
def load (file? : Option Bytes) : Except SettingsError Settings :=
  match file?.bind decodeText? with
  | some document => read document
  | none => .error .unreadable

end DocumentRules.Settings
