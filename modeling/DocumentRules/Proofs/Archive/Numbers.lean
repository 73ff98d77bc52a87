import DocumentRules.Archive.Varint

/-!
# Reading back numbers of variable width

A number that fits into a width is read back from what was written, whatever follows
(`readNumber?_writeNumber`). A reader takes wider forms than the writer makes, but none that is
shorter: what a number is read from is at least as long as what it is written as
(`length_writeNumber_le_of_readNumber?`).
-/

set_option autoImplicit false
set_option relaxedAutoImplicit false

namespace DocumentRules.Archive

open Text

theorem takeBytes?_append (front rest : Bytes) :
    takeBytes? front.length (front ++ rest) = some (front, rest) := by
  simp [takeBytes?]

/-- Bytes are taken from the front and the others are left. -/
theorem of_takeBytes?_eq_some {count : Nat} {bytes front rest : Bytes}
    (h : takeBytes? count bytes = some (front, rest)) :
    front.length = count ∧ bytes = front ++ rest := by
  unfold takeBytes? at h
  simp only [] at h
  split at h
  · rename_i hlength
    simp only [Option.some.injEq, Prod.mk.injEq] at h
    obtain ⟨rfl, rfl⟩ := h
    exact ⟨hlength, (List.take_append_drop count bytes).symm⟩
  · exact nomatch h

theorem ofLittleEndian_lt_capacity (digits : Bytes) :
    ofLittleEndian digits < capacity digits.length := by
  induction digits with
  | nil => exact Nat.one_pos
  | cons byte rest ih =>
    have hbyte := byte.toNat_lt
    simp only [ofLittleEndian, List.length_cons, capacity]
    omega

/-! ### The writer -/

theorem length_writeNumber_pos (value : Nat) : 0 < (writeNumber value).length := by
  unfold writeNumber
  repeat' split
  all_goals exact Nat.succ_pos _

/-- A number without a marker takes one byte. -/
theorem length_writeNumber_of_lt {value : Nat} (h : value < 251) :
    (writeNumber value).length = 1 := by
  unfold writeNumber
  rw [if_pos h]
  rfl

/-- A larger number is not written as fewer bytes. -/
theorem length_writeNumber_mono {value larger : Nat} (h : value ≤ larger) :
    (writeNumber value).length ≤ (writeNumber larger).length := by
  unfold writeNumber
  repeat' split
  all_goals simp only [List.length_cons, List.length_nil, length_littleEndian]
  all_goals omega

/-- The widths that have a marker. -/
def IsMarkedWidth (width : Nat) : Prop := width = 2 ∨ width = 4 ∨ width = 8 ∨ width = 16

theorem isMarkedWidth_of_markedWidth? {marker : UInt8} {width : Nat}
    (h : markedWidth? marker = some width) : IsMarkedWidth width := by
  unfold markedWidth? at h
  unfold IsMarkedWidth
  repeat' split at h
  all_goals simp_all

/-- Assumes: a number that fits into a marked width. It is written in that width or less. -/
theorem length_writeNumber_le {width value : Nat} (hwidth : IsMarkedWidth width)
    (h : value < capacity width) : (writeNumber value).length ≤ width + 1 := by
  have htwo : capacity 2 = 65536 := rfl
  have hfour : capacity 4 = 4294967296 := rfl
  have height : capacity 8 = 18446744073709551616 := rfl
  unfold writeNumber
  rcases hwidth with rfl | rfl | rfl | rfl
  all_goals
    repeat' split
    all_goals simp only [List.length_cons, List.length_nil, length_littleEndian]
    all_goals omega

/-! ### The reader -/

/-- A number without a marker is read back at every width. -/
theorem readNumber?_writeNumber_of_lt {value : Nat} (h : value < 251) (limit : Nat) (rest : Bytes) :
    readNumber? limit (writeNumber value ++ rest) = some (value, rest) := by
  have hbyte : (UInt8.ofNat value).toNat = value :=
    UInt8.toNat_ofNat_of_lt' (by show _ < 256; omega)
  have hlt : UInt8.ofNat value < 251 := by
    rw [UInt8.lt_iff_toNat_lt, hbyte]
    exact h
  unfold writeNumber
  rw [if_pos h]
  show (if UInt8.ofNat value < 251 then some ((UInt8.ofNat value).toNat, rest) else _) = _
  rw [if_pos hlt, hbyte]

/-- Assumes: a marker, and a number that fits into the width it stands for. The number is read back
behind the marker. -/
theorem readNumber?_marked {marker : UInt8} {width value limit : Nat}
    (hmarker : markedWidth? marker = some width) (hsmall : ¬ marker < 251) (hlimit : width ≤ limit)
    (hvalue : value < capacity width) (rest : Bytes) :
    readNumber? limit (marker :: littleEndian width value ++ rest) = some (value, rest) := by
  have htake := takeBytes?_append (littleEndian width value) rest
  rw [length_littleEndian] at htake
  show (if marker < 251 then _ else _) = _
  rw [if_neg hsmall, hmarker]
  show (if width ≤ limit then _ else _) = _
  rw [if_pos hlimit]
  simp [htake, ofLittleEndian_littleEndian hvalue]

/-- Assumes: a number that fits into the width of a length. It is read back, whatever follows. -/
theorem readNumber?_writeNumber {value : Nat} (h : value < capacity lengthWidth) (rest : Bytes) :
    readNumber? lengthWidth (writeNumber value ++ rest) = some (value, rest) := by
  by_cases hsmall : value < 251
  · exact readNumber?_writeNumber_of_lt hsmall lengthWidth rest
  unfold writeNumber
  rw [if_neg hsmall]
  split
  · rename_i htwo
    exact readNumber?_marked rfl (by decide) (by decide) htwo rest
  split
  · rename_i hfour
    exact readNumber?_marked rfl (by decide) (by decide) hfour rest
  have height : value < capacity 8 := h
  rw [if_pos height]
  exact readNumber?_marked rfl (by decide) (by decide) height rest

/-- What a number is read from is no shorter than what it is written as. -/
theorem length_writeNumber_le_of_readNumber? {limit value : Nat} {bytes rest : Bytes}
    (h : readNumber? limit bytes = some (value, rest)) :
    (writeNumber value).length + rest.length ≤ bytes.length := by
  match bytes with
  | [] => exact nomatch h
  | first :: tail =>
    simp only [readNumber?] at h
    split at h
    · rename_i hsmall
      simp only [Option.some.injEq, Prod.mk.injEq] at h
      obtain ⟨rfl, rfl⟩ := h
      have hlt : first.toNat < 251 := UInt8.lt_iff_toNat_lt.mp hsmall
      rw [length_writeNumber_of_lt hlt, List.length_cons]
      omega
    · obtain ⟨width, hmarker, h⟩ := Option.bind_eq_some_iff.mp h
      split at h
      · obtain ⟨⟨digits, after⟩, htake, h⟩ := Option.bind_eq_some_iff.mp h
        simp only [Option.some.injEq, Prod.mk.injEq] at h
        obtain ⟨rfl, rfl⟩ := h
        obtain ⟨hlength, rfl⟩ := of_takeBytes?_eq_some htake
        have hvalue := ofLittleEndian_lt_capacity digits
        rw [hlength] at hvalue
        have hwritten := length_writeNumber_le (isMarkedWidth_of_markedWidth? hmarker) hvalue
        rw [List.length_cons, List.length_append]
        omega
      · exact nomatch h

end DocumentRules.Archive
