import DocumentRules.Text.Utf8
import Mathlib.Algebra.Ring.Nat
import Mathlib.Tactic.SplitIfs

/-!
# Reading back what was written as UTF-8

The scan over the bytes of a character emits the character and stands between two characters again
(`foldl_step_encodeCharacter`), so the bytes of a text are read back as the text
(`decodeText?_encodeText`).

Bytes that are read as a text are no shorter than the bytes that the text is written as
(`length_encodeText_le`). The invariant of the scan is that the characters emitted so far, together
with the bytes of the present one, take no more bytes than were read, and that a present character
with one byte owed has a code point for which its bytes suffice.
-/

set_option autoImplicit false
set_option relaxedAutoImplicit false

namespace DocumentRules.Text

deriving instance DecidableEq for PartialCharacter

/-! ### The bytes of a text -/

theorem afterLead?_two :
    ∀ digit < 0x20, 2 ≤ digit → afterLead? (UInt8.ofNat (0xC0 + digit)) =
      some ⟨1, 0x80, 0xBF, digit⟩ := by
  decide

theorem afterLead?_three :
    ∀ digit < 0x10, afterLead? (UInt8.ofNat (0xE0 + digit)) =
      some ⟨2, if digit = 0 then 0xA0 else 0x80, if digit = 0xD then 0x9F else 0xBF, digit⟩ := by
  decide

theorem afterLead?_four :
    ∀ digit < 5, afterLead? (UInt8.ofNat (0xF0 + digit)) =
      some ⟨3, if digit = 0 then 0x90 else 0x80, if digit = 4 then 0x8F else 0xBF, digit⟩ := by
  decide

/-- The scan after the first byte of a longer character. -/
theorem Scan.start_of_afterLead? {emitted : List (Option Char)} {byte : UInt8}
    {inside : PartialCharacter} (h : afterLead? byte = some inside) :
    Scan.start emitted byte = ⟨emitted, some inside⟩ := by
  have hbyte : ¬ byte < 0x80 := by
    intro hlt
    have hnone : ∀ small < 0x80, afterLead? (UInt8.ofNat small) = none := by decide
    rw [← UInt8.ofNat_toNat (x := byte), hnone byte.toNat (UInt8.lt_iff_toNat_lt.mp hlt)] at h
    exact nomatch h
  unfold Scan.start
  rw [if_neg hbyte, h]

/-- The byte that carries the six lowest digits of a number. -/
def tailByte (shifted : Nat) : UInt8 := UInt8.ofNat (0x80 + shifted % 0x40)

theorem toNat_tailByte (shifted : Nat) : (tailByte shifted).toNat = 0x80 + shifted % 0x40 :=
  UInt8.toNat_ofNat_of_lt' (by show _ < 256; omega)

/-- Assumes: the last byte owed, within its bounds. It completes the character. -/
theorem Scan.step_last {emitted : List (Option Char)} {low high : UInt8} {code shifted : Nat}
    (hlow : low.toNat ≤ 0x80 + shifted % 0x40) (hhigh : 0x80 + shifted % 0x40 ≤ high.toNat) :
    Scan.step ⟨emitted, some ⟨1, low, high, code⟩⟩ (tailByte shifted) =
      ⟨some (Char.ofNat (code * 0x40 + shifted % 0x40)) :: emitted, none⟩ := by
  have hwithin : low ≤ tailByte shifted ∧ tailByte shifted ≤ high := by
    rw [UInt8.le_iff_toNat_le, UInt8.le_iff_toNat_le, toNat_tailByte]
    exact ⟨hlow, hhigh⟩
  simp only [Scan.step]
  rw [if_pos hwithin, if_pos trivial, toNat_tailByte, Nat.add_sub_cancel_left]

/-- Assumes: a byte owed that is not the last, within its bounds. It adds six digits to the code
point, and the next byte is bounded no further. -/
theorem Scan.step_more {emitted : List (Option Char)} {owed : Nat} {low high : UInt8}
    {code shifted : Nat} (hlow : low.toNat ≤ 0x80 + shifted % 0x40)
    (hhigh : 0x80 + shifted % 0x40 ≤ high.toNat) :
    Scan.step ⟨emitted, some ⟨owed + 2, low, high, code⟩⟩ (tailByte shifted) =
      ⟨emitted, some ⟨owed + 1, 0x80, 0xBF, code * 0x40 + shifted % 0x40⟩⟩ := by
  have hwithin : low ≤ tailByte shifted ∧ tailByte shifted ≤ high := by
    rw [UInt8.le_iff_toNat_le, UInt8.le_iff_toNat_le, toNat_tailByte]
    exact ⟨hlow, hhigh⟩
  simp only [Scan.step]
  rw [if_pos hwithin, if_neg (by omega), toNat_tailByte, Nat.add_sub_cancel_left]
  rfl

theorem tailByte_within (shifted : Nat) :
    (0x80 : UInt8).toNat ≤ 0x80 + shifted % 0x40 ∧ 0x80 + shifted % 0x40 ≤ (0xBF : UInt8).toNat :=
  ⟨Nat.le_add_right _ _, by show _ ≤ 0xBF; omega⟩

/-! ### A character at a time -/

theorem foldl_step_one {code : Nat} (hcode : code < 0x80) (emitted : List (Option Char)) :
    [UInt8.ofNat code].foldl Scan.step ⟨emitted, none⟩ =
      ⟨some (Char.ofNat code) :: emitted, none⟩ := by
  have hbyte : (UInt8.ofNat code).toNat = code :=
    UInt8.toNat_ofNat_of_lt' (by show _ < 256; omega)
  have hlt : UInt8.ofNat code < 0x80 := by
    rw [UInt8.lt_iff_toNat_lt, hbyte]
    exact hcode
  show Scan.start emitted (UInt8.ofNat code) = _
  unfold Scan.start
  rw [if_pos hlt, hbyte]

theorem foldl_step_two {code : Nat} (hlow : 0x80 ≤ code) (hhigh : code < 0x800)
    (emitted : List (Option Char)) :
    [UInt8.ofNat (0xC0 + code / 0x40), tailByte code].foldl Scan.step ⟨emitted, none⟩ =
      ⟨some (Char.ofNat code) :: emitted, none⟩ := by
  have hlead := afterLead?_two (code / 0x40) (by omega) (by omega)
  have hlast := tailByte_within code
  have hcode : code / 0x40 * 0x40 + code % 0x40 = code := by omega
  show Scan.step (Scan.start emitted _) _ = _
  rw [Scan.start_of_afterLead? hlead, Scan.step_last hlast.1 hlast.2, hcode]

theorem foldl_step_three {code : Nat} (hlow : 0x800 ≤ code) (hhigh : code < 0x10000)
    (hvalid : code < 0xD800 ∨ 0xDFFF < code) (emitted : List (Option Char)) :
    [UInt8.ofNat (0xE0 + code / 0x1000), tailByte (code / 0x40), tailByte code].foldl Scan.step
        ⟨emitted, none⟩ = ⟨some (Char.ofNat code) :: emitted, none⟩ := by
  have hlead := afterLead?_three (code / 0x1000) (by omega)
  have hlast := tailByte_within code
  have hcode : (code / 0x1000 * 0x40 + code / 0x40 % 0x40) * 0x40 + code % 0x40 = code := by omega
  -- the second byte is bounded further where the code point would be too small or a surrogate
  have hsecondLow : (if code / 0x1000 = 0 then 0xA0 else 0x80 : UInt8).toNat ≤
      0x80 + code / 0x40 % 0x40 := by
    split
    · show 0xA0 ≤ _
      omega
    · exact (tailByte_within _).1
  have hsecondHigh : 0x80 + code / 0x40 % 0x40 ≤
      (if code / 0x1000 = 0xD then 0x9F else 0xBF : UInt8).toNat := by
    split
    · show _ ≤ 0x9F
      omega
    · exact (tailByte_within _).2
  show Scan.step (Scan.step (Scan.start emitted _) _) _ = _
  rw [Scan.start_of_afterLead? hlead, Scan.step_more hsecondLow hsecondHigh,
    Scan.step_last hlast.1 hlast.2, hcode]

theorem foldl_step_four {code : Nat} (hlow : 0x10000 ≤ code) (hhigh : code < 0x110000)
    (emitted : List (Option Char)) :
    [UInt8.ofNat (0xF0 + code / 0x40000), tailByte (code / 0x1000), tailByte (code / 0x40),
        tailByte code].foldl Scan.step ⟨emitted, none⟩ =
      ⟨some (Char.ofNat code) :: emitted, none⟩ := by
  have hlead := afterLead?_four (code / 0x40000) (by omega)
  have hthird := tailByte_within (code / 0x40)
  have hlast := tailByte_within code
  have hcode : ((code / 0x40000 * 0x40 + code / 0x1000 % 0x40) * 0x40 + code / 0x40 % 0x40) * 0x40 +
      code % 0x40 = code := by omega
  -- the second byte is bounded further where the code point would be too small or too large
  have hsecondLow : (if code / 0x40000 = 0 then 0x90 else 0x80 : UInt8).toNat ≤
      0x80 + code / 0x1000 % 0x40 := by
    split
    · show 0x90 ≤ _
      omega
    · exact (tailByte_within _).1
  have hsecondHigh : 0x80 + code / 0x1000 % 0x40 ≤
      (if code / 0x40000 = 4 then 0x8F else 0xBF : UInt8).toNat := by
    split
    · show _ ≤ 0x8F
      omega
    · exact (tailByte_within _).2
  show Scan.step (Scan.step (Scan.step (Scan.start emitted _) _) _) _ = _
  rw [Scan.start_of_afterLead? hlead, Scan.step_more hsecondLow hsecondHigh,
    Scan.step_more hthird.1 hthird.2, Scan.step_last hlast.1 hlast.2, hcode]

/-- The scan over the bytes of a character emits the character. -/
theorem foldl_step_encodeCharacter (emitted : List (Option Char)) (character : Char) :
    (encodeCharacter character).foldl Scan.step ⟨emitted, none⟩ =
      ⟨some character :: emitted, none⟩ := by
  have hvalid : character.toNat < 0xD800 ∨ 0xDFFF < character.toNat ∧ character.toNat < 0x110000 :=
    character.valid
  have hcharacter := Char.ofNat_toNat character
  unfold encodeCharacter
  simp only []
  split
  · rename_i hone
    rw [foldl_step_one hone, hcharacter]
  split
  · rename_i hone htwo
    exact (foldl_step_two (by omega) htwo emitted).trans (by rw [hcharacter])
  split
  · rename_i hone htwo hthree
    exact (foldl_step_three (by omega) hthree (by omega) emitted).trans (by rw [hcharacter])
  · rename_i hone htwo hthree
    exact (foldl_step_four (by omega) (by omega) emitted).trans (by rw [hcharacter])

/-- The scan over the bytes of a text emits its characters. -/
theorem scanBytes_encodeText (text : String) :
    scanBytes (encodeText text) = text.toList.map some := by
  have hscan : ∀ (characters : List Char) (emitted : List (Option Char)),
      (characters.flatMap encodeCharacter).foldl Scan.step ⟨emitted, none⟩ =
        ⟨(characters.map some).reverse ++ emitted, none⟩ := by
    intro characters
    induction characters with
    | nil => exact fun emitted ↦ rfl
    | cons first rest ih =>
      intro emitted
      rw [List.flatMap_cons, List.foldl_append, foldl_step_encodeCharacter, ih]
      simp
  unfold scanBytes encodeText
  rw [hscan]
  simp [Scan.finish]

/-- The bytes of a text are read back as the text. -/
theorem decodeText?_encodeText (text : String) : decodeText? (encodeText text) = some text := by
  unfold decodeText?
  simp only [scanBytes_encodeText]
  simp [List.filterMap_map]

/-- Bytes that are well-formed are read as they are also where others would be replaced. -/
theorem decodeLossy_encodeText (text : String) : decodeLossy (encodeText text) = text.toList := by
  unfold decodeLossy
  rw [scanBytes_encodeText, List.map_map]
  exact List.map_id _

/-! ### No text is read from fewer bytes than it is written as -/

/-- How many bytes a code point takes. -/
def encodedWidth (code : Nat) : Nat :=
  if code < 0x80 then 1 else if code < 0x800 then 2 else if code < 0x10000 then 3 else 4

theorem encodedWidth_mono {code larger : Nat} (h : code ≤ larger) :
    encodedWidth code ≤ encodedWidth larger := by
  unfold encodedWidth
  split_ifs <;> omega

theorem length_encodeCharacter (character : Char) :
    (encodeCharacter character).length = encodedWidth character.toNat := by
  unfold encodeCharacter encodedWidth
  simp only []
  split_ifs <;> rfl

/-- A number that is no code point stands for the least one. -/
theorem length_encodeCharacter_ofNat_le (code : Nat) :
    (encodeCharacter (Char.ofNat code)).length ≤ encodedWidth code := by
  rw [length_encodeCharacter]
  refine encodedWidth_mono ?_
  by_cases hvalid : code.isValidChar
  · rw [Char.ofNat, dif_pos hvalid]
    exact Nat.le_refl code
  · rw [Char.ofNat, dif_neg hvalid]
    exact Nat.zero_le code

/-- How many bytes the characters among some emitted ones are written as. -/
def writtenLength (emitted : List (Option Char)) : Nat :=
  ((emitted.filterMap id).flatMap encodeCharacter).length

/-- The largest code point that a character can still come to. -/
def PartialCharacter.reach (inside : PartialCharacter) : Nat :=
  inside.code * 0x40 ^ inside.owed + (0x40 ^ inside.owed - 1)

/-- The characters of a scan are not written as more than `count` bytes, and nor is its present
character when the bytes that are owed are added. -/
structure Scan.IsCovered (scan : Scan) (count : Nat) : Prop where
  emitted_le : writtenLength scan.emitted ≤ count
  inside_le : ∀ inside, scan.inside = some inside →
    0 < inside.owed ∧ inside.high.toNat ≤ 0xBF ∧
      writtenLength scan.emitted + encodedWidth inside.reach ≤ count + inside.owed

theorem writtenLength_none (emitted : List (Option Char)) :
    writtenLength (none :: emitted) = writtenLength emitted := rfl

theorem writtenLength_some (character : Char) (emitted : List (Option Char)) :
    writtenLength (some character :: emitted) =
      (encodeCharacter character).length + writtenLength emitted := by
  simp [writtenLength]

theorem encodedWidth_reach_afterLead? {lead : UInt8} {inside : PartialCharacter}
    (h : afterLead? lead = some inside) :
    0 < inside.owed ∧ inside.high.toNat ≤ 0xBF ∧ encodedWidth inside.reach ≤ 1 + inside.owed := by
  have hall : ∀ code < 256, ∀ inside ∈ afterLead? (UInt8.ofNat code),
      0 < inside.owed ∧ inside.high.toNat ≤ 0xBF ∧ encodedWidth inside.reach ≤ 1 + inside.owed := by
    decide +kernel
  rw [← UInt8.ofNat_toNat (x := lead)] at h
  exact hall lead.toNat lead.toNat_lt inside h

theorem Scan.isCovered_start {emitted : List (Option Char)} {count : Nat}
    (h : writtenLength emitted ≤ count) (byte : UInt8) :
    (Scan.start emitted byte).IsCovered (count + 1) := by
  unfold Scan.start
  split
  · rename_i hbyte
    refine ⟨?_, fun inside hinside ↦ nomatch hinside⟩
    have hlength := length_encodeCharacter_ofNat_le byte.toNat
    have hwidth : encodedWidth byte.toNat = 1 := if_pos (UInt8.lt_iff_toNat_lt.mp hbyte)
    rw [writtenLength_some]
    omega
  · split
    · rename_i inside hlead
      refine ⟨Nat.le_succ_of_le h, fun other hother ↦ ?_⟩
      obtain rfl : inside = other := Option.some.inj hother
      obtain ⟨howed, hhigh, hwidth⟩ := encodedWidth_reach_afterLead? hlead
      refine ⟨howed, hhigh, ?_⟩
      show writtenLength emitted + encodedWidth inside.reach ≤ count + 1 + inside.owed
      omega
    · exact ⟨Nat.le_succ_of_le h, fun inside hinside ↦ nomatch hinside⟩

/-- Six more digits leave a character within its reach. -/
theorem reach_le {low high low' high' : UInt8} {owed code digits : Nat} (hdigits : digits < 0x40) :
    PartialCharacter.reach ⟨owed, low', high', code * 0x40 + digits⟩ ≤
      PartialCharacter.reach ⟨owed + 1, low, high, code⟩ := by
  have hpos : 0 < 0x40 ^ owed := Nat.pow_pos (by decide)
  have hle : (digits + 1) * 0x40 ^ owed ≤ 0x40 * 0x40 ^ owed := Nat.mul_le_mul_right _ hdigits
  unfold PartialCharacter.reach
  simp only []
  rw [Nat.pow_succ', Nat.add_mul, Nat.mul_assoc]
  rw [Nat.add_mul, Nat.one_mul] at hle
  omega

/-- Every byte that is read pays for one byte that is written. -/
theorem Scan.isCovered_step {scan : Scan} {count : Nat} (h : scan.IsCovered count) (byte : UInt8) :
    (scan.step byte).IsCovered (count + 1) := by
  unfold Scan.step
  split
  · exact Scan.isCovered_start h.emitted_le byte
  · rename_i inside hinside
    obtain ⟨howed, hhigh, hwidth⟩ := h.inside_le inside hinside
    obtain ⟨owed, low, high, code⟩ := inside
    obtain ⟨owed, rfl⟩ := Nat.exists_eq_add_one_of_ne_zero (Nat.ne_of_gt howed)
    have hemitted := h.emitted_le
    simp only at hhigh hwidth ⊢
    split
    · rename_i hwithin
      have hdigits : byte.toNat - 0x80 < 0x40 := by
        have hle := Nat.le_trans (UInt8.le_iff_toNat_le.mp hwithin.2) hhigh
        omega
      have hreach := encodedWidth_mono (@reach_le low high 0x80 0xBF owed code _ hdigits)
      split
      · rename_i hlast
        obtain rfl : owed = 0 := Nat.succ.inj hlast
        have hlength := length_encodeCharacter_ofNat_le (code * 0x40 + (byte.toNat - 0x80))
        have hcode : PartialCharacter.reach ⟨0, 0x80, 0xBF, code * 0x40 + (byte.toNat - 0x80)⟩ =
            code * 0x40 + (byte.toNat - 0x80) := by simp [PartialCharacter.reach]
        rw [hcode] at hreach
        refine ⟨?_, fun other hother ↦ nomatch hother⟩
        rw [writtenLength_some]
        omega
      · rename_i hmore
        refine ⟨Nat.le_succ_of_le hemitted, fun other hother ↦ ?_⟩
        obtain rfl := Option.some.inj hother
        refine ⟨by show 0 < owed; omega, Nat.le_refl _, ?_⟩
        show writtenLength scan.emitted +
          encodedWidth (PartialCharacter.reach ⟨owed, 0x80, 0xBF, _⟩) ≤ count + 1 + owed
        omega
    · exact Scan.isCovered_start (writtenLength_none scan.emitted ▸ hemitted) byte

theorem Scan.isCovered_foldl {scan : Scan} {count : Nat} (h : scan.IsCovered count)
    (bytes : Bytes) :
    (bytes.foldl Scan.step scan).IsCovered (count + bytes.length) := by
  induction bytes generalizing scan count with
  | nil => exact h
  | cons byte rest ih =>
    rw [List.foldl_cons, List.length_cons, Nat.add_comm rest.length, ← Nat.add_assoc]
    exact ih (Scan.isCovered_step h byte)

/-- A text is written as no more bytes than it can be read from. -/
theorem length_encodeText_le {bytes : Bytes} {text : String} (h : decodeText? bytes = some text) :
    (encodeText text).length ≤ bytes.length := by
  have hinitial : Scan.IsCovered ⟨[], none⟩ 0 :=
    ⟨Nat.le_refl 0, fun inside hinside ↦ nomatch hinside⟩
  have hcovered := Scan.isCovered_foldl hinitial bytes
  unfold decodeText? scanBytes at h
  simp only [List.all_reverse] at h
  split at h
  · rename_i hall
    cases hinside : (bytes.foldl Scan.step ⟨[], none⟩).inside with
    | some inside =>
      simp [Scan.finish, hinside] at hall
    | none =>
      have hfinish : (bytes.foldl Scan.step ⟨[], none⟩).finish =
          (bytes.foldl Scan.step ⟨[], none⟩).emitted := by simp only [Scan.finish, hinside]
      rw [hfinish] at h
      obtain rfl := Option.some.inj h
      calc (encodeText (String.ofList _)).length
          = writtenLength (bytes.foldl Scan.step ⟨[], none⟩).emitted := by
            unfold encodeText writtenLength
            rw [String.toList_ofList, List.filterMap_reverse, List.length_flatMap,
              List.length_flatMap, List.map_reverse, List.sum_reverse]
        _ ≤ 0 + bytes.length := hcovered.emitted_le
        _ = bytes.length := Nat.zero_add _
  · exact nomatch h

end DocumentRules.Text
