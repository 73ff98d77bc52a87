import DocumentRules.Archive.Codec
import DocumentRules.Proofs.Archive.Numbers
import DocumentRules.Proofs.Text.Utf8

/-!
# Reading back the parts of a payload

A reader and a writer belong together (`IsCodec`) when the reader reads back what the writer wrote,
whatever follows, and when it reads nothing from fewer bytes than the writer would have used. The
first is asked only of values that are written as fewer bytes than a length can count, which makes
every length in them countable. Options and lists of parts that belong together belong together, and
so do, part by part, the comparisons, tokens and rules that an entry is made of.
-/

set_option autoImplicit false
set_option relaxedAutoImplicit false

namespace DocumentRules.Archive

open Text Condition Report

/-- A reader reads back what a writer wrote, and reads nothing from fewer bytes. -/
structure IsCodec {α : Type} (read : Reader α) (write : α → Bytes) : Prop where
  read_write : ∀ value : α, (write value).length < capacity lengthWidth →
    ∀ rest, read (write value ++ rest) = some (value, rest)
  length_write_le : ∀ {bytes rest : Bytes} {value : α}, read bytes = some (value, rest) →
    (write value).length + rest.length ≤ bytes.length
  length_write_pos : ∀ value : α, 0 < (write value).length

/-! ### Texts, options and lists -/

theorem isCodec_text : IsCodec readText writeText where
  read_write := by
    intro text hlength rest
    unfold writeText at hlength ⊢
    simp only [List.length_append] at hlength
    have hcountable : (encodeText text).length < capacity lengthWidth := by omega
    have hnumber := readNumber?_writeNumber hcountable (encodeText text ++ rest)
    simp [readText, List.append_assoc, hnumber, takeBytes?_append, decodeText?_encodeText]
  length_write_le := by
    intro bytes rest text h
    obtain ⟨⟨length, afterLength⟩, hnumber, h⟩ := Option.bind_eq_some_iff.mp h
    obtain ⟨⟨content, afterContent⟩, htake, h⟩ := Option.bind_eq_some_iff.mp h
    obtain ⟨other, hdecode, h⟩ := Option.bind_eq_some_iff.mp h
    simp only [Option.some.injEq, Prod.mk.injEq] at h
    obtain ⟨rfl, rfl⟩ := h
    obtain ⟨hlength, rfl⟩ := of_takeBytes?_eq_some htake
    have hcontent := length_encodeText_le hdecode
    have hwritten := length_writeNumber_le_of_readNumber? hnumber
    have hmono := length_writeNumber_mono (hlength ▸ hcontent)
    unfold writeText
    simp only [List.length_append] at hwritten ⊢
    omega
  length_write_pos := by
    intro text
    unfold writeText
    rw [List.length_append]
    exact Nat.add_pos_left (length_writeNumber_pos _) _

theorem isCodec_truth : IsCodec readTruth writeTruth where
  read_write := by
    intro value _ rest
    cases value <;> rfl
  length_write_le := by
    intro bytes rest value h
    match bytes with
    | [] => exact nomatch h
    | first :: tail =>
      simp only [readTruth] at h
      repeat' split at h
      all_goals
        simp only [Option.some.injEq, Prod.mk.injEq, reduceCtorEq] at h
      all_goals
        obtain ⟨-, rfl⟩ := h
        simp [writeTruth, Nat.add_comm]
  length_write_pos := fun _ ↦ Nat.one_pos

/-- Assumes: a value that is read back, if there is one. So is the option. -/
theorem readOption_writeOption {α : Type} {read : Reader α} {write : α → Bytes} {value? : Option α}
    (h : ∀ value ∈ value?, ∀ rest, read (write value ++ rest) = some (value, rest)) (rest : Bytes) :
    readOption read (writeOption write value? ++ rest) = some (value?, rest) := by
  cases value? with
  | none => rfl
  | some value =>
    show (read (write value ++ rest)).map _ = _
    rw [h value rfl rest]
    rfl

/-- Assumes: a reader that reads nothing from fewer bytes than a writer uses. The same is true of
options. -/
theorem length_writeOption_le {α : Type} {read : Reader α} {write : α → Bytes}
    (hread : ∀ {bytes rest : Bytes} {value : α}, read bytes = some (value, rest) →
      (write value).length + rest.length ≤ bytes.length)
    {bytes rest : Bytes} {value? : Option α} (h : readOption read bytes = some (value?, rest)) :
    (writeOption write value?).length + rest.length ≤ bytes.length := by
  match bytes with
  | [] => exact nomatch h
  | first :: tail =>
    simp only [readOption] at h
    split at h
    · simp only [Option.some.injEq, Prod.mk.injEq] at h
      obtain ⟨rfl, rfl⟩ := h
      simp [writeOption, Nat.add_comm]
    split at h
    · obtain ⟨⟨value, after⟩, hvalue, h⟩ := Option.map_eq_some_iff.mp h
      simp only [Prod.mk.injEq] at h
      obtain ⟨rfl, rfl⟩ := h
      have hlength := hread hvalue
      simp only [writeOption, List.length_cons]
      omega
    · exact nomatch h

theorem length_writeOption_pos {α : Type} (write : α → Bytes) (value? : Option α) :
    0 < (writeOption write value?).length := by
  cases value? <;> exact Nat.succ_pos _

theorem IsCodec.option {α : Type} {read : Reader α} {write : α → Bytes} (h : IsCodec read write) :
    IsCodec (readOption read) (writeOption write) where
  read_write := by
    intro value? hlength rest
    refine readOption_writeOption (fun value hvalue ↦ h.read_write value ?_) rest
    obtain rfl := Option.mem_def.mp hvalue
    exact Nat.lt_of_succ_lt hlength
  length_write_le := length_writeOption_le h.length_write_le
  length_write_pos := length_writeOption_pos write

/-- Assumes: members that are each read back. As many of them are read back one after the other. -/
theorem readMembers_flatMap {α : Type} {read : Reader α} {write : α → Bytes} {members : List α}
    (h : ∀ member ∈ members, ∀ rest, read (write member ++ rest) = some (member, rest))
    (rest : Bytes) :
    readMembers read members.length (members.flatMap write ++ rest) = some (members, rest) := by
  induction members with
  | nil => rfl
  | cons member others ih =>
    obtain ⟨hmember, hothers⟩ := List.forall_mem_cons.mp h
    rw [List.flatMap_cons, List.append_assoc]
    simp [readMembers, hmember, ih hothers]

theorem length_flatMap_le_of_readMembers {α : Type} {read : Reader α} {write : α → Bytes}
    (h : IsCodec read write) {count : Nat} {bytes rest : Bytes} {members : List α}
    (hread : readMembers read count bytes = some (members, rest)) :
    members.length = count ∧ (members.flatMap write).length + rest.length ≤ bytes.length := by
  induction count generalizing bytes members with
  | zero =>
    simp only [readMembers, Option.some.injEq, Prod.mk.injEq] at hread
    obtain ⟨rfl, rfl⟩ := hread
    exact ⟨rfl, by simp⟩
  | succ count ih =>
    obtain ⟨⟨member, afterMember⟩, hmember, hread⟩ := Option.bind_eq_some_iff.mp hread
    obtain ⟨⟨others, afterOthers⟩, hothers, hread⟩ := Option.bind_eq_some_iff.mp hread
    simp only [Option.some.injEq, Prod.mk.injEq] at hread
    obtain ⟨rfl, rfl⟩ := hread
    obtain ⟨hcount, hlength⟩ := ih hothers
    have hfirst := h.length_write_le hmember
    simp only [List.length_cons, List.flatMap_cons, List.length_append]
    exact ⟨by omega, by omega⟩

/-- Members that take at least one byte each are no more than their bytes. -/
theorem length_le_length_flatMap {α : Type} {write : α → Bytes}
    (hpos : ∀ member, 0 < (write member).length) (members : List α) :
    members.length ≤ (members.flatMap write).length := by
  induction members with
  | nil => exact Nat.le_refl 0
  | cons member others ih =>
    have hmember := hpos member
    simp only [List.length_cons, List.flatMap_cons, List.length_append]
    omega

theorem IsCodec.list {α : Type} {read : Reader α} {write : α → Bytes} (h : IsCodec read write) :
    IsCodec (readList read) (writeList write) where
  read_write := by
    intro members hlength rest
    unfold writeList at hlength ⊢
    rw [List.length_append] at hlength
    have hcount := length_le_length_flatMap h.length_write_pos members
    have hcountable : members.length < capacity lengthWidth := by omega
    have hnumber := readNumber?_writeNumber hcountable (members.flatMap write ++ rest)
    have hmember : ∀ member ∈ members, ∀ rest,
        read (write member ++ rest) = some (member, rest) := by
      intro member hmember
      have hwritten : write member ∈ members.map write := List.mem_map_of_mem hmember
      have hle := (List.sublist_flatten_of_mem hwritten).length_le
      rw [← List.flatMap_def] at hle
      exact h.read_write member (by omega)
    simp [readList, List.append_assoc, hnumber, readMembers_flatMap hmember rest]
  length_write_le := by
    intro bytes rest members hread
    obtain ⟨⟨count, afterCount⟩, hnumber, hread⟩ := Option.bind_eq_some_iff.mp hread
    obtain ⟨rfl, hlength⟩ := length_flatMap_le_of_readMembers h hread
    have hwritten := length_writeNumber_le_of_readNumber? hnumber
    unfold writeList
    rw [List.length_append]
    omega
  length_write_pos := by
    intro members
    unfold writeList
    rw [List.length_append]
    exact Nat.add_pos_left (length_writeNumber_pos _) _

/-! ### The parts of an entry -/

/-- Assumes: a list of fewer than 251 values that has them all. Its members are read back by their
place in it. -/
theorem isCodec_member {α : Type} [BEq α] [LawfulBEq α] {all : List α}
    (hall : ∀ member, member ∈ all) (hcount : all.length < 251) :
    IsCodec (readMember all) (writeMember all) where
  read_write := by
    intro member _ rest
    have hplace := List.idxOf_lt_length_of_mem (hall member)
    have hnumber := readNumber?_writeNumber_of_lt (Nat.lt_trans hplace hcount) variantWidth rest
    simp [readMember, writeMember, hnumber, List.getElem?_eq_getElem hplace]
  length_write_le := by
    intro bytes rest member h
    obtain ⟨⟨index, afterIndex⟩, hnumber, h⟩ := Option.bind_eq_some_iff.mp h
    obtain ⟨other, hother, h⟩ := Option.bind_eq_some_iff.mp h
    simp only [Option.some.injEq, Prod.mk.injEq] at h
    obtain ⟨rfl, rfl⟩ := h
    obtain ⟨hindex, rfl⟩ := List.getElem?_eq_some_iff.mp hother
    have hwritten := length_writeNumber_le_of_readNumber? hnumber
    have hpos := length_writeNumber_pos index
    have hplace := List.idxOf_lt_length_of_mem (hall all[index])
    unfold writeMember
    rw [length_writeNumber_of_lt (Nat.lt_trans hplace hcount)]
    omega
  length_write_pos := fun _ ↦ length_writeNumber_pos _

theorem isCodec_kind : IsCodec (readMember FieldKind.all) (writeMember FieldKind.all) :=
  isCodec_member (fun kind ↦ by cases kind <;> decide) (by decide)

theorem isCodec_operator : IsCodec (readMember Operator.all) (writeMember Operator.all) :=
  isCodec_member (fun operator ↦ by cases operator <;> decide) (by decide)

theorem isCodec_comparison : IsCodec readComparison writeComparison where
  read_write := by
    intro comparison hlength rest
    unfold writeComparison at hlength ⊢
    simp only [List.length_append] at hlength
    have hname := isCodec_text.read_write comparison.field.name (by omega)
    have hkind := isCodec_kind.read_write comparison.field.kind (by omega)
    have hoperator := isCodec_operator.read_write comparison.operator (by omega)
    have hliteral := isCodec_text.read_write comparison.value.literal (by omega)
    have hcommit := isCodec_text.option.read_write comparison.value.commit? (by omega)
    simp [readComparison, List.append_assoc, hname, hkind, hoperator, hliteral, hcommit]
  length_write_le := by
    intro bytes rest comparison h
    obtain ⟨⟨name, afterName⟩, hname, h⟩ := Option.bind_eq_some_iff.mp h
    obtain ⟨⟨kind, afterKind⟩, hkind, h⟩ := Option.bind_eq_some_iff.mp h
    obtain ⟨⟨operator, afterOperator⟩, hoperator, h⟩ := Option.bind_eq_some_iff.mp h
    obtain ⟨⟨literal, afterLiteral⟩, hliteral, h⟩ := Option.bind_eq_some_iff.mp h
    obtain ⟨⟨commit?, afterCommit⟩, hcommit, h⟩ := Option.bind_eq_some_iff.mp h
    simp only [Option.some.injEq, Prod.mk.injEq] at h
    obtain ⟨rfl, rfl⟩ := h
    have hname := isCodec_text.length_write_le hname
    have hkind := isCodec_kind.length_write_le hkind
    have hoperator := isCodec_operator.length_write_le hoperator
    have hliteral := isCodec_text.length_write_le hliteral
    have hcommit := isCodec_text.option.length_write_le hcommit
    simp only [writeComparison, List.length_append]
    omega
  length_write_pos := by
    intro comparison
    have hname := isCodec_text.length_write_pos comparison.field.name
    simp only [writeComparison, List.length_append]
    omega

/-- A number in front of an alternative is read back, whatever follows. -/
theorem readNumber?_variant {variant : Nat} (h : variant < 251) (rest : Bytes) :
    readNumber? variantWidth (writeNumber variant ++ rest) = some (variant, rest) :=
  readNumber?_writeNumber_of_lt h variantWidth rest

theorem isCodec_token : IsCodec readToken writeToken where
  read_write := by
    intro token hlength rest
    cases token with
    | comparison statement =>
      simp only [writeToken, List.length_append] at hlength ⊢
      have hstatement := isCodec_comparison.read_write statement (by omega)
      simp [readToken, readNumber?_variant, hstatement]
    | connective joint => cases joint <;> simp [readToken, writeToken, readNumber?_variant]
    | opening => simp [readToken, writeToken, readNumber?_variant]
    | closing => simp [readToken, writeToken, readNumber?_variant]
    | literal value =>
      simp only [writeToken, List.length_append] at hlength ⊢
      have hvalue := isCodec_truth.read_write value (by omega)
      simp [readToken, readNumber?_variant, hvalue]
    | error message =>
      simp only [writeToken, List.length_append] at hlength ⊢
      have hmessage := isCodec_text.read_write message (by omega)
      simp [readToken, readNumber?_variant, hmessage]
  length_write_le := by
    intro bytes rest token h
    obtain ⟨⟨variant, afterVariant⟩, hvariant, h⟩ := Option.bind_eq_some_iff.mp h
    have hwritten := length_writeNumber_le_of_readNumber? hvariant
    simp only at h
    split at h
    · obtain ⟨⟨statement, after⟩, hstatement, h⟩ := Option.map_eq_some_iff.mp h
      obtain ⟨rfl, rfl⟩ := Prod.mk.inj h
      have hlength := isCodec_comparison.length_write_le hstatement
      simp only [writeToken, List.length_append]
      omega
    · obtain ⟨rfl, rfl⟩ := Prod.mk.inj (Option.some.inj h)
      exact hwritten
    · obtain ⟨rfl, rfl⟩ := Prod.mk.inj (Option.some.inj h)
      exact hwritten
    · obtain ⟨rfl, rfl⟩ := Prod.mk.inj (Option.some.inj h)
      exact hwritten
    · obtain ⟨rfl, rfl⟩ := Prod.mk.inj (Option.some.inj h)
      exact hwritten
    · obtain ⟨⟨value, after⟩, hvalue, h⟩ := Option.map_eq_some_iff.mp h
      obtain ⟨rfl, rfl⟩ := Prod.mk.inj h
      have hlength := isCodec_truth.length_write_le hvalue
      simp only [writeToken, List.length_append]
      omega
    · obtain ⟨⟨message, after⟩, hmessage, h⟩ := Option.map_eq_some_iff.mp h
      obtain ⟨rfl, rfl⟩ := Prod.mk.inj h
      have hlength := isCodec_text.length_write_le hmessage
      simp only [writeToken, List.length_append]
      omega
    · exact nomatch h
  length_write_pos := by
    intro token
    match token with
    | .comparison _ | .connective .and | .connective .or | .opening | .closing | .literal _
    | .error _ => exact Nat.succ_pos _

theorem isCodec_rule : IsCodec readRule writeRule where
  read_write := by
    intro rule hlength rest
    cases rule with
    | draft written =>
      simp only [writeRule, List.length_append] at hlength ⊢
      have hcondition := isCodec_token.list.read_write written.condition (by omega)
      have hscope := isCodec_text.option.read_write written.extensionScope? (by omega)
      have hbounds := isCodec_text.option.read_write written.bounds? (by omega)
      simp [readRule, readNumber?_variant, hcondition, hscope, hbounds]
    | expanded condition =>
      simp only [writeRule, List.length_append] at hlength ⊢
      have hcondition := isCodec_token.list.read_write condition (by omega)
      simp [readRule, readNumber?_variant, hcondition]
  length_write_le := by
    intro bytes rest rule h
    obtain ⟨⟨variant, afterVariant⟩, hvariant, h⟩ := Option.bind_eq_some_iff.mp h
    have hwritten := length_writeNumber_le_of_readNumber? hvariant
    simp only at h
    split at h
    · obtain ⟨⟨condition, afterCondition⟩, hcondition, h⟩ := Option.bind_eq_some_iff.mp h
      obtain ⟨⟨scope?, afterScope⟩, hscope, h⟩ := Option.bind_eq_some_iff.mp h
      obtain ⟨⟨bounds?, afterBounds⟩, hbounds, h⟩ := Option.bind_eq_some_iff.mp h
      obtain ⟨rfl, rfl⟩ := Prod.mk.inj (Option.some.inj h)
      simp only at hscope hbounds
      have hcondition := isCodec_token.list.length_write_le hcondition
      have hscope := isCodec_text.option.length_write_le hscope
      have hbounds := isCodec_text.option.length_write_le hbounds
      simp only [writeRule, List.length_append]
      omega
    · obtain ⟨⟨condition, afterCondition⟩, hcondition, h⟩ := Option.map_eq_some_iff.mp h
      obtain ⟨rfl, rfl⟩ := Prod.mk.inj h
      have hcondition := isCodec_token.list.length_write_le hcondition
      simp only [writeRule, List.length_append]
      omega
    · exact nomatch h
  length_write_pos := by
    intro rule
    cases rule <;> exact Nat.succ_pos _

/-! ### Payloads -/

/-- Assumes: a payload whose digest has the length of one, if there is a digest, and that is written
as fewer bytes than a length can count. It is read back, whatever follows. -/
theorem readPayload_writePayload {payload : Payload}
    (hdigest : ∀ digest ∈ payload.sourceDigest?, digest.length = digestLength)
    (hcount : payload.ruleCount < capacity lengthWidth)
    (hlength : (writePayload payload).length < capacity lengthWidth) (rest : Bytes) :
    readPayload (writePayload payload ++ rest) = some (payload, rest) := by
  unfold writePayload at hlength ⊢
  simp only [List.length_append] at hlength
  have hnumber := readNumber?_writeNumber hcount
  have hsource := @readOption_writeOption _ (takeBytes? digestLength) id payload.sourceDigest?
    fun digest hmem rest ↦ hdigest digest hmem ▸ takeBytes?_append digest rest
  have hname := isCodec_text.read_write payload.entry.name (by omega)
  have hbounds := isCodec_text.option.read_write payload.entry.bounds? (by omega)
  have hrules := isCodec_rule.list.read_write payload.entry.rules (by omega)
  simp [readPayload, List.append_assoc, hnumber, hsource, hname, hbounds, hrules]

/-- What a payload is read from is no shorter than what it is written as. -/
theorem length_writePayload_le {bytes rest : Bytes} {payload : Payload}
    (h : readPayload bytes = some (payload, rest)) :
    (writePayload payload).length + rest.length ≤ bytes.length := by
  obtain ⟨⟨ruleCount, afterCount⟩, hcount, h⟩ := Option.bind_eq_some_iff.mp h
  obtain ⟨⟨source?, afterSource⟩, hsource, h⟩ := Option.bind_eq_some_iff.mp h
  obtain ⟨⟨name, afterName⟩, hname, h⟩ := Option.bind_eq_some_iff.mp h
  obtain ⟨⟨bounds?, afterBounds⟩, hbounds, h⟩ := Option.bind_eq_some_iff.mp h
  obtain ⟨⟨rules, afterRules⟩, hrules, h⟩ := Option.bind_eq_some_iff.mp h
  obtain ⟨rfl, rfl⟩ := Prod.mk.inj (Option.some.inj h)
  have hdigest : ∀ {bytes rest digest : Bytes},
      takeBytes? digestLength bytes = some (digest, rest) →
        (id digest).length + rest.length ≤ bytes.length := by
    intro bytes rest digest htake
    obtain ⟨-, rfl⟩ := of_takeBytes?_eq_some htake
    exact Nat.le_of_eq List.length_append.symm
  have hcount := length_writeNumber_le_of_readNumber? hcount
  have hsource := length_writeOption_le hdigest hsource
  have hname := isCodec_text.length_write_le hname
  have hbounds := isCodec_text.option.length_write_le hbounds
  have hrules := isCodec_rule.list.length_write_le hrules
  simp only [writePayload, List.length_append]
  omega

end DocumentRules.Archive
