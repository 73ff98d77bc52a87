import DocumentRules.Proofs.Archive.Frame
import DocumentRules.Proofs.Archive.Parts
import Mathlib.Algebra.Ring.Nat

/-!
# Archived entries survive

An entry is consistent when the name of every field in its rules agrees with the kind of the field.
The blob of an entry decodes to the entry exactly when the entry is consistent, and otherwise to the
first inconsistency, in the order of the rules and of the comparisons in a rule. Conversely whatever
blob an entry is decoded from, the entry is consistent, and because no payload is read from fewer
bytes than it is written as, it fits into a blob again.
-/

set_option autoImplicit false
set_option relaxedAutoImplicit false

namespace DocumentRules.Archive

open Text Condition Report

/-! ### Consistent entries -/

/-- The name of a field is the keyword of its kind, or the field is a form field and no kind goes by
its name. -/
def NameAgrees (field : Field) : Prop :=
  field.kind.keyword? = some field.name ∨
    field.kind = .formField ∧ ∀ kind : FieldKind, kind.keyword? ≠ some field.name

/-- The names of all fields in a condition agree with the kinds of the fields. -/
def NamesAgree (condition : Condition) : Prop :=
  ∀ comparison ∈ condition.comparisons, NameAgrees comparison.field

/-- The names of all fields in the rules of an entry agree with the kinds of the fields. -/
def IsConsistent (entry : Entry) : Prop := ∀ rule ∈ entry.rules, NamesAgree rule.condition

/-- A field is the first one in the comparisons of a condition whose name does not agree with its
kind. -/
def IsFirstDisagreement (condition : Condition) (field : Field) : Prop :=
  ∃ front comparison back, condition.comparisons = front ++ comparison :: back ∧
    (∀ earlier ∈ front, NameAgrees earlier.field) ∧ comparison.field = field ∧ ¬ NameAgrees field

/-- A field is the first one in some rules, and stands in the rule at an index, whose name does not
agree with its kind. -/
def IsFirstInconsistency (rules : List Rule) (index : Nat) (field : Field) : Prop :=
  ∃ front rule back, rules = front ++ rule :: back ∧ front.length = index ∧
    (∀ earlier ∈ front, NamesAgree earlier.condition) ∧ IsFirstDisagreement rule.condition field

theorem isConsistent_iff (field : Field) : isConsistent field = true ↔ NameAgrees field := by
  unfold isConsistent NameAgrees
  cases hkeyword : field.kind.keyword? with
  | some keyword =>
    have hbuiltIn : field.kind ≠ .formField := by
      intro hkind
      rw [hkind] at hkeyword
      exact nomatch hkeyword
    simp only [beq_iff_eq, Option.some.injEq, hbuiltIn, false_and, or_false]
    exact eq_comm
  | none =>
    have hform : field.kind = .formField := by
      cases hkind : field.kind <;> rw [hkind] at hkeyword <;> first | rfl | exact nomatch hkeyword
    simp only [hform, true_and, reduceCtorEq, false_or, Option.isNone_iff_eq_none]
    unfold FieldKind.ofKeyword?
    rw [List.find?_eq_none]
    constructor
    · intro h kind
      have hmem : kind ∈ FieldKind.all := by cases kind <;> decide
      simpa using h kind hmem
    · intro h kind _
      simpa using h kind

theorem inconsistentField?_eq_none_iff (condition : Condition) :
    inconsistentField? condition = none ↔ NamesAgree condition := by
  unfold inconsistentField? NamesAgree
  simp [isConsistent_iff]

theorem isFirstDisagreement_of_inconsistentField? {condition : Condition} {field : Field}
    (h : inconsistentField? condition = some field) : IsFirstDisagreement condition field := by
  unfold inconsistentField? at h
  rw [List.find?_map] at h
  obtain ⟨comparison, hfind, rfl⟩ := Option.map_eq_some_iff.mp h
  obtain ⟨hdisagrees, front, back, hsplit, hfront⟩ := List.find?_eq_some_iff_append.mp hfind
  refine ⟨front, comparison, back, hsplit, fun earlier hearlier ↦ ?_, rfl, ?_⟩
  · have hagrees := hfront earlier hearlier
    simpa [isConsistent_iff] using hagrees
  · simpa [isConsistent_iff, ← Bool.not_eq_true] using hdisagrees

theorem inconsistentRule?_eq_none_iff (index : Nat) (rules : List Rule) :
    inconsistentRule? index rules = none ↔ ∀ rule ∈ rules, NamesAgree rule.condition := by
  induction rules generalizing index with
  | nil => simp [inconsistentRule?]
  | cons rule rest ih =>
    rw [inconsistentRule?, List.forall_mem_cons, ← inconsistentField?_eq_none_iff, ← ih (index + 1)]
    cases inconsistentField? rule.condition with
    | some field => exact iff_of_false (nomatch ·) fun h ↦ nomatch h.1
    | none => exact ⟨fun h ↦ ⟨rfl, h⟩, And.right⟩

/-- The search for an inconsistency comes to the first one, counting the rules from an index on. -/
theorem isFirstInconsistency_of_inconsistentRule? {start found : Nat} {rules : List Rule}
    {field : Field} (h : inconsistentRule? start rules = some (found, field)) :
    ∃ index, found = start + index ∧ IsFirstInconsistency rules index field := by
  induction rules generalizing start with
  | nil => exact nomatch h
  | cons rule rest ih =>
    rw [inconsistentRule?] at h
    cases hfield : inconsistentField? rule.condition with
    | some first =>
      rw [hfield] at h
      simp only [Option.some.injEq, Prod.mk.injEq] at h
      obtain ⟨rfl, rfl⟩ := h
      exact ⟨0, rfl, [], rule, rest, rfl, rfl, nofun,
        isFirstDisagreement_of_inconsistentField? hfield⟩
    | none =>
      rw [hfield] at h
      obtain ⟨index, rfl, front, other, back, rfl, rfl, hfront, hother⟩ := ih h
      refine ⟨front.length + 1, by omega, rule :: front, other, back, rfl, rfl, ?_, hother⟩
      exact List.forall_mem_cons.mpr ⟨(inconsistentField?_eq_none_iff _).mp hfield, hfront⟩

/-! ### Entries -/

/-- A payload that passes the checks was read from fewer bytes than the length in a header can
count. -/
theorem length_writePayload_lt_of_checkedPayload? {blob : Bytes} {payload : Payload}
    (h : checkedPayload? blob = .ok payload) : (writePayload payload).length < capacity 4 := by
  obtain ⟨hframed, rest, hread⟩ := checkedPayload?_eq_ok_iff.mp h
  have hwritten := length_writePayload_le hread
  have hslice : (statedPayload blob).length ≤ statedLength blob := List.length_take_le _ _
  have hdigits : (slice 12 4 blob).length = 4 := by
    have hheader := hframed.headerLength_le
    unfold slice headerLength at *
    rw [List.length_take, List.length_drop]
    omega
  have hstated : statedLength blob < capacity 4 := by
    have hlt := ofLittleEndian_lt_capacity (slice 12 4 blob)
    rwa [hdigits] at hlt
  omega

/-- The number of rules and the digest of a source that are written with an entry are in order. -/
theorem readPayload_payloadOf (entry : Entry) (source? : Option String)
    (hlength : (writePayload (payloadOf entry source?)).length < capacity lengthWidth) :
    readPayload (writePayload (payloadOf entry source?)) = some (payloadOf entry source?, []) := by
  have hrules := length_le_length_flatMap isCodec_rule.length_write_pos entry.rules
  have hcount : entry.rules.length < capacity lengthWidth := by
    simp only [writePayload, writeList, payloadOf, List.length_append] at hlength
    omega
  have hdigest : ∀ digest ∈ (payloadOf entry source?).sourceDigest?,
      digest.length = digestLength := by
    intro digest hmem
    obtain ⟨source, -, rfl⟩ := Option.map_eq_some_iff.mp (Option.mem_def.mp hmem)
    exact length_digest _
  have hread := readPayload_writePayload hdigest hcount hlength []
  rw [List.append_nil] at hread
  exact hread

/-- Assumes: an entry whose payload fits into a blob. The payload is read back from the blob. -/
theorem checkedPayload?_encode {entry : Entry} {source? : Option String}
    (hlength : (writePayload (payloadOf entry source?)).length < capacity 4) :
    checkedPayload? (encode entry source?) = .ok (payloadOf entry source?) := by
  have hcountable : (writePayload (payloadOf entry source?)).length < capacity lengthWidth :=
    Nat.lt_trans hlength (by decide)
  have hread := readPayload_payloadOf entry source? hcountable
  refine checkedPayload?_eq_ok_iff.mpr ⟨isFramed_header hlength, [], ?_⟩
  exact (congrArg readPayload (statedPayload_header hlength)).trans hread

/-- Assumes: an entry whose payload fits into a blob. Its blob decodes to it, or to the first of its
inconsistencies. -/
theorem decode?_encode {entry : Entry} {source? : Option String}
    (hlength : (writePayload (payloadOf entry source?)).length < capacity 4) :
    decode? (encode entry source?) =
      match inconsistentRule? 0 entry.rules with
      | some (rule, field) => .error (.inconsistent (.fieldName rule field))
      | none => .ok entry := by
  unfold decode?
  rw [checkedPayload?_encode hlength]
  show (payloadOf entry source?).checkedEntry = _
  unfold Payload.checkedEntry Payload.inconsistency? payloadOf
  simp only [ne_eq, not_true_eq_false, if_false]
  cases inconsistentRule? 0 entry.rules <;> rfl

/-- An entry that a blob decodes to is consistent, and its payload without a source fits into a
blob. -/
theorem of_decode?_eq_ok {blob : Bytes} {entry : Entry} (h : decode? blob = .ok entry) :
    IsConsistent entry ∧ (writePayload (payloadOf entry none)).length < capacity 4 := by
  unfold decode? at h
  cases hchecked : checkedPayload? blob with
  | error cause =>
    rw [hchecked] at h
    exact nomatch h
  | ok payload =>
    rw [hchecked] at h
    have hentry : payload.checkedEntry = .ok entry := h
    have hlength := length_writePayload_lt_of_checkedPayload? hchecked
    unfold Payload.checkedEntry Payload.inconsistency? at hentry
    simp only [] at hentry
    split at hentry
    · exact nomatch hentry
    rename_i hnone
    obtain rfl := Except.ok.inj hentry
    split at hnone
    · exact nomatch hnone
    rename_i hcount
    refine ⟨(inconsistentRule?_eq_none_iff 0 _).mp (Option.map_eq_none_iff.mp hnone), ?_⟩
    -- the payload that was read has the same count and entry, and an option of at least one byte
    have hsource := length_writeOption_pos id payload.sourceDigest?
    have hmissing : (writeOption id (none : Option Bytes)).length = 1 := rfl
    simp only [writePayload, payloadOf, List.length_append, Option.map_none,
      Decidable.of_not_not hcount] at hlength ⊢
    omega

/-- An entry whose payload fits into a blob survives exactly when it is consistent, and otherwise
its blob is refused for the first field whose name does not agree with its kind. An entry that any
blob decodes to is consistent. It survives without a source, and with every source with which its
payload fits into a blob. -/
theorem decode?_encode_eq_ok_iff :
    (∀ (entry : Entry) (source? : Option String),
      (writePayload (payloadOf entry source?)).length < 2 ^ 32 →
        (decode? (encode entry source?) = .ok entry ↔ IsConsistent entry) ∧
        (¬ IsConsistent entry → ∃ index field, IsFirstInconsistency entry.rules index field ∧
          decode? (encode entry source?) = .error (.inconsistent (.fieldName index field)))) ∧
    ∀ (blob : Bytes) (entry : Entry), decode? blob = .ok entry →
      IsConsistent entry ∧ decode? (encode entry none) = .ok entry ∧
        ∀ source? : Option String, (writePayload (payloadOf entry source?)).length < 2 ^ 32 →
          decode? (encode entry source?) = .ok entry := by
  have hsurvives : ∀ {entry : Entry} {source? : Option String}, IsConsistent entry →
      (writePayload (payloadOf entry source?)).length < capacity 4 →
        decode? (encode entry source?) = .ok entry := by
    intro entry source? hconsistent hlength
    rw [decode?_encode hlength, (inconsistentRule?_eq_none_iff 0 _).mpr hconsistent]
  refine ⟨fun entry source? hlength ↦ ?_, fun blob entry hdecode ↦ ?_⟩
  · have hrefused : ∀ {index : Nat} {field : Field},
        inconsistentRule? 0 entry.rules = some (index, field) →
          decode? (encode entry source?) = .error (.inconsistent (.fieldName index field)) := by
      intro index field hfound
      rw [decode?_encode hlength, hfound]
    cases hfound : inconsistentRule? 0 entry.rules with
    | none =>
      have hconsistent : IsConsistent entry := (inconsistentRule?_eq_none_iff 0 _).mp hfound
      exact ⟨iff_of_true (hsurvives hconsistent hlength) hconsistent,
        fun hinconsistent ↦ absurd hconsistent hinconsistent⟩
    | some found =>
      obtain ⟨index, field⟩ := found
      have hinconsistent : ¬ IsConsistent entry := fun hconsistent ↦ by
        rw [(inconsistentRule?_eq_none_iff 0 _).mpr hconsistent] at hfound
        exact nomatch hfound
      have herror := hrefused hfound
      obtain ⟨place, rfl, hfirst⟩ := isFirstInconsistency_of_inconsistentRule? hfound
      refine ⟨iff_of_false (fun hok ↦ ?_) hinconsistent, fun _ ↦ ⟨place, field, hfirst, ?_⟩⟩
      · exact nomatch herror.symm.trans hok
      · rw [herror, Nat.zero_add]
  · obtain ⟨hconsistent, hlength⟩ := of_decode?_eq_ok hdecode
    exact ⟨hconsistent, hsurvives hconsistent hlength, fun source? ↦ hsurvives hconsistent⟩

/-- An entry with a nested rule and one that is expanded survives. Under another name for the same
kind of field in the second rule its blob is refused. -/
theorem decode?_encode_eq_ok_iff_small :
    let entry (name : String) : Entry :=
      { name := "r", bounds? := some "A",
        rules := [.draft { condition := [.opening, Token.within "A", .closing] },
          .expanded [.comparison ⟨⟨name, .extension⟩, .equal, Value.ofText "md"⟩]] }
    decode? (encode (entry "ext") none) = .ok (entry "ext") ∧
      decode? (encode (entry "path") none) ≠ .ok (entry "path") := by
  intro entry
  have hfits : ∀ name ∈ ["ext", "path"],
      (writePayload (payloadOf (entry name) none)).length < 2 ^ 32 := by decide +kernel
  have hext := (decode?_encode_eq_ok_iff.1 (entry "ext") none (hfits _ (by decide))).1
  have hpath := (decode?_encode_eq_ok_iff.1 (entry "path") none (hfits _ (by decide))).1
  refine ⟨hext.mpr ?_, fun hok ↦ ?_⟩
  · exact (inconsistentRule?_eq_none_iff 0 (entry "ext").rules).mp (by decide +kernel)
  · have hnone := (inconsistentRule?_eq_none_iff 0 (entry "path").rules).mpr (hpath.mp hok)
    exact absurd hnone (by decide +kernel)

end DocumentRules.Archive
