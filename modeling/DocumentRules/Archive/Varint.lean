import DocumentRules.Text.Utf8

/-!
# Numbers of variable width

A number below 251 is written as one byte. A larger one is written as a marker, which tells its
width, and its bytes, the least first: the markers 251, 252, 253 and 254 stand for widths of two,
four, eight and sixteen bytes, and 255 stands for nothing. The writer takes the least width. A
reader accepts every width up to that of the type it reads, wider than needed or not.
-/

set_option autoImplicit false
set_option relaxedAutoImplicit false

namespace DocumentRules.Archive

open Text

/-- The lowest `width` bytes of a number, the least first. -/
def littleEndian : Nat → Nat → Bytes
  | 0, _ => []
  | width + 1, value => UInt8.ofNat value :: littleEndian width (value / 256)

/-- The number that some bytes denote, the least first. -/
def ofLittleEndian : Bytes → Nat
  | [] => 0
  | byte :: rest => byte.toNat + 256 * ofLittleEndian rest

/-- How many numbers fit into a width. -/
def capacity : Nat → Nat
  | 0 => 1
  | width + 1 => 256 * capacity width

@[simp] theorem length_littleEndian (width value : Nat) :
    (littleEndian width value).length = width := by
  induction width generalizing value with
  | zero => rfl
  | succ width ih => simp [littleEndian, ih]

/-- Assumes: a number that fits into the width. Its bytes denote it. -/
theorem ofLittleEndian_littleEndian {width value : Nat} (h : value < capacity width) :
    ofLittleEndian (littleEndian width value) = value := by
  induction width generalizing value with
  | zero =>
    obtain rfl : value = 0 := Nat.lt_one_iff.mp h
    rfl
  | succ width ih =>
    have hrest : value / 256 < capacity width := by
      rw [Nat.div_lt_iff_lt_mul (by decide), Nat.mul_comm]
      exact h
    simp only [littleEndian, ofLittleEndian, ih hrest, UInt8.toNat_ofNat']
    omega

/-- A number in the least width. -/
def writeNumber (value : Nat) : Bytes :=
  if value < 251 then [UInt8.ofNat value]
  else if value < capacity 2 then 251 :: littleEndian 2 value
  else if value < capacity 4 then 252 :: littleEndian 4 value
  else if value < capacity 8 then 253 :: littleEndian 8 value
  else 254 :: littleEndian 16 value

/-- The first `count` bytes and the others, if there are as many. -/
def takeBytes? (count : Nat) (bytes : Bytes) : Option (Bytes × Bytes) :=
  let front := bytes.take count
  if front.length = count then some (front, bytes.drop count) else none

/-- The width that a marker stands for. -/
def markedWidth? (marker : UInt8) : Option Nat :=
  if marker = 251 then some 2
  else if marker = 252 then some 4
  else if marker = 253 then some 8
  else if marker = 254 then some 16
  else none

/-- The number at the start of some bytes, of a type that is `limit` bytes wide, and the bytes
after it. -/
def readNumber? (limit : Nat) : Bytes → Option (Nat × Bytes)
  | [] => none
  | first :: rest =>
    if first < 251 then some (first.toNat, rest)
    else do
      let width ← markedWidth? first
      if width ≤ limit then
        let (digits, rest) ← takeBytes? width rest
        some (ofLittleEndian digits, rest)
      else none

/-- The width of a length. -/
def lengthWidth : Nat := 8

/-- The width of the number of an alternative. -/
def variantWidth : Nat := 4

end DocumentRules.Archive
