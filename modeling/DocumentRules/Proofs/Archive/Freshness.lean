import DocumentRules.Proofs.Archive.RoundTrip

/-!
# Fresh blobs and blobs that load

Asking whether a blob is fresh and loading its entry begin with the same checks, up to the reading
of the payload. Loading then goes on to ask that the payload be sound: that it state the right
number of rules, and that the names of its fields agree with their kinds. Freshness does not ask
this.

So whatever loads can be asked whether it is fresh, but what is fresh need not load
(`isFresh?_fails_with_decode?_iff`). The two fail together exactly on the blobs whose payload, if it
can be read, is sound. An entry that is not consistent gives a blob that is fresh when it is written
and does not load (`exists_fresh_of_not_loadable`).

A blob is fresh for the text that it was written with and for no other text, and one that was
written without a text is fresh for none (`fresh_for_own_source_only`). For two texts this relies on
their digests being different, which is assumed of the two alone.
-/

set_option autoImplicit false
set_option relaxedAutoImplicit false

namespace DocumentRules.Archive

open Text Condition Report

/-- A payload states the number of its rules, and the names of all fields agree with their kinds. -/
def Payload.IsSound (payload : Payload) : Prop :=
  payload.ruleCount = payload.entry.rules.length ∧ IsConsistent payload.entry

theorem Payload.inconsistency?_eq_none_iff (payload : Payload) :
    payload.inconsistency? = none ↔ payload.IsSound := by
  unfold Payload.inconsistency? IsSound
  by_cases hcount : payload.ruleCount = payload.entry.rules.length
  · simp only [hcount, ne_eq, not_true_eq_false, if_false, Option.map_eq_none_iff, true_and]
    exact inconsistentRule?_eq_none_iff 0 payload.entry.rules
  · simp [hcount]

/-! ### Readable payloads -/

section Readable

variable {blob : Bytes} {payload : Payload}

theorem isFresh?_of_checkedPayload? (h : checkedPayload? blob = .ok payload) (source : String) :
    isFresh? blob source = .ok (payload.sourceDigest? == some (sourceDigest source)) := by
  unfold isFresh?
  rw [h]
  rfl

theorem decode?_of_isSound (h : checkedPayload? blob = .ok payload) (hsound : payload.IsSound) :
    decode? blob = .ok payload.entry := by
  unfold decode?
  rw [h]
  show payload.checkedEntry = _
  unfold Payload.checkedEntry
  rw [payload.inconsistency?_eq_none_iff.mpr hsound]

/-- A payload that is not sound is refused with what is inconsistent in it. -/
theorem exists_decode?_of_not_isSound (h : checkedPayload? blob = .ok payload)
    (hunsound : ¬ payload.IsSound) :
    ∃ cause, payload.inconsistency? = some cause ∧ decode? blob = .error (.inconsistent cause) := by
  rw [← payload.inconsistency?_eq_none_iff] at hunsound
  obtain ⟨cause, hcause⟩ := Option.ne_none_iff_exists'.mp hunsound
  refine ⟨cause, hcause, ?_⟩
  unfold decode?
  rw [h]
  show payload.checkedEntry = _
  unfold Payload.checkedEntry
  rw [hcause]

/-- Assumes: a readable payload. Its blob loads exactly when the payload is sound. -/
theorem exists_decode?_eq_error_iff (h : checkedPayload? blob = .ok payload) :
    (∃ error, decode? blob = .error error) ↔ ¬ payload.IsSound := by
  constructor
  · rintro ⟨error, herror⟩ hsound
    exact nomatch herror.symm.trans (decode?_of_isSound h hsound)
  · intro hunsound
    obtain ⟨cause, -, herror⟩ := exists_decode?_of_not_isSound h hunsound
    exact ⟨_, herror⟩

end Readable

/-- What keeps a payload from being read keeps a blob from loading and from being fresh. -/
theorem of_checkedPayload?_eq_error {blob : Bytes} {error : BlobError}
    (h : checkedPayload? blob = .error error) (source : String) :
    isFresh? blob source = .error error ∧ decode? blob = .error error := by
  unfold isFresh? decode?
  rw [h]
  exact ⟨rfl, rfl⟩

/-- What keeps a blob from being asked whether it is fresh keeps it from loading. -/
theorem decode?_of_isFresh?_eq_error {blob : Bytes} {source : String} {error : BlobError}
    (h : isFresh? blob source = .error error) : decode? blob = .error error := by
  cases hchecked : checkedPayload? blob with
  | error other =>
    obtain ⟨hfresh, hdecode⟩ := of_checkedPayload?_eq_error hchecked source
    rw [hdecode, Except.error.inj (hfresh.symm.trans h)]
  | ok payload => exact nomatch h.symm.trans (isFresh?_of_checkedPayload? hchecked source)

/-- Freshness and loading fail together exactly on blobs whose payload, if it can be read, is sound.
-/
theorem fail_together_iff (blob : Bytes) (source : String) :
    ((∃ error, isFresh? blob source = .error error) ↔ ∃ error, decode? blob = .error error) ↔
      ∀ payload, checkedPayload? blob = .ok payload → payload.IsSound := by
  cases hchecked : checkedPayload? blob with
  | error error =>
    obtain ⟨hfresh, hdecode⟩ := of_checkedPayload?_eq_error hchecked source
    exact iff_of_true (iff_of_true ⟨error, hfresh⟩ ⟨error, hdecode⟩) nofun
  | ok payload =>
    have hanswers : ¬ ∃ error, isFresh? blob source = .error error := by
      rintro ⟨error, herror⟩
      exact nomatch herror.symm.trans (isFresh?_of_checkedPayload? hchecked source)
    rw [iff_false_left hanswers, exists_decode?_eq_error_iff hchecked, not_not]
    exact ⟨fun hsound _ hpayload ↦ Except.ok.inj hpayload ▸ hsound, fun h ↦ h payload rfl⟩

/-! ### Blobs as they are written -/

/-- An entry is written with the number of its rules, so only its fields can be inconsistent. -/
theorem isSound_payloadOf_iff (entry : Entry) (source? : Option String) :
    (payloadOf entry source?).IsSound ↔ IsConsistent entry :=
  and_iff_right rfl

/-- Assumes: an entry whose payload fits into a blob. The blob is fresh for a text exactly if it was
written with a text of the same digest. -/
theorem isFresh?_encode_eq {entry : Entry} {source? : Option String}
    (hlength : (writePayload (payloadOf entry source?)).length < capacity 4) (text : String) :
    isFresh? (encode entry source?) text =
      .ok (source?.map sourceDigest == some (sourceDigest text)) :=
  isFresh?_of_checkedPayload? (checkedPayload?_encode hlength) text

/-- Assumes: an entry whose payload fits into a blob with the digest of a text. The blob is fresh
for the text. -/
theorem isFresh?_encode {entry : Entry} {source : String}
    (hlength : (writePayload (payloadOf entry (some source))).length < capacity 4) :
    isFresh? (encode entry (some source)) source = .ok true := by
  rw [isFresh?_encode_eq hlength]
  exact congrArg Except.ok (beq_self_eq_true _)

/-- The blob of an entry loads exactly when the entry is consistent. -/
theorem exists_decode?_encode_iff {entry : Entry} {source? : Option String}
    (hlength : (writePayload (payloadOf entry source?)).length < capacity 4) :
    (∃ loaded, decode? (encode entry source?) = .ok loaded) ↔ IsConsistent entry := by
  have hchecked := checkedPayload?_encode hlength
  rw [← isSound_payloadOf_iff entry source?]
  constructor
  · rintro ⟨loaded, hloaded⟩
    by_contra hunsound
    obtain ⟨cause, -, herror⟩ := exists_decode?_of_not_isSound hchecked hunsound
    exact nomatch herror.symm.trans hloaded
  · exact fun hsound ↦ ⟨_, decode?_of_isSound hchecked hsound⟩

/-- What keeps a blob from being asked whether it is fresh keeps it from loading. The converse holds
exactly of the blobs whose payload is sound if it can be read: one that is not sound is compared
with the text like any other, and is refused with its inconsistency when it is loaded. In particular
the blob that is written for an entry and a text is fresh for the text, and loads exactly when the
entry is consistent. -/
theorem isFresh?_fails_with_decode?_iff (blob : Bytes) (source : String) :
    (∀ error, isFresh? blob source = .error error → decode? blob = .error error) ∧
    (((∃ error, isFresh? blob source = .error error) ↔ ∃ error, decode? blob = .error error) ↔
      ∀ payload, checkedPayload? blob = .ok payload → payload.IsSound) ∧
    (∀ payload, checkedPayload? blob = .ok payload → ¬ payload.IsSound →
      isFresh? blob source = .ok (payload.sourceDigest? == some (sourceDigest source)) ∧
      ∃ cause, payload.inconsistency? = some cause ∧
        decode? blob = .error (.inconsistent cause)) ∧
    ∀ entry, (writePayload (payloadOf entry (some source))).length < 2 ^ 32 →
      isFresh? (encode entry (some source)) source = .ok true ∧
      ((∃ loaded, decode? (encode entry (some source)) = .ok loaded) ↔ IsConsistent entry) :=
  ⟨fun _ ↦ decode?_of_isFresh?_eq_error, fail_together_iff blob source,
    fun _ hchecked hunsound ↦ ⟨isFresh?_of_checkedPayload? hchecked source,
      exists_decode?_of_not_isSound hchecked hunsound⟩,
    fun _ hlength ↦ ⟨isFresh?_encode hlength, exists_decode?_encode_iff hlength⟩⟩

/-- The blob of an entry with one comparison is fresh for its text under either name for the field,
and loads under the keyword of the field's kind alone. -/
theorem isFresh?_fails_with_decode?_iff_small :
    let entry (name : String) : Entry :=
      { name := "r", rules := [.draft
          { condition := [.comparison ⟨⟨name, .extension⟩, .equal, Value.ofText "md"⟩] }] }
    (∀ name ∈ ["ext", "path"], isFresh? (encode (entry name) (some "s")) "s" = .ok true) ∧
      (∃ loaded, decode? (encode (entry "ext") (some "s")) = .ok loaded) ∧
      ¬ ∃ loaded, decode? (encode (entry "path") (some "s")) = .ok loaded := by
  intro entry
  have hfits : ∀ name ∈ ["ext", "path"],
      (writePayload (payloadOf (entry name) (some "s"))).length < 2 ^ 32 := by decide +kernel
  have hwritten : ∀ name ∈ ["ext", "path"], _ := fun name hname ↦
    (isFresh?_fails_with_decode?_iff [] "s").2.2.2 (entry name) (hfits name hname)
  have hagrees (name : String) : IsConsistent (entry name) ↔
      inconsistentRule? 0 (entry name).rules = none :=
    (inconsistentRule?_eq_none_iff 0 _).symm
  refine ⟨fun name hname ↦ (hwritten name hname).1, ?_, ?_⟩
  · rw [(hwritten "ext" (by decide)).2, hagrees]
    decide +kernel
  · rw [(hwritten "path" (by decide)).2, hagrees]
    decide +kernel

/-- A blob can be fresh for a text and yet not load: an entry in which the extension goes by the
name of the path is written for a text, and refused when it is loaded. -/
theorem exists_fresh_of_not_loadable :
    let entry : Entry :=
      { name := "r", rules := [.draft
          { condition := [.comparison ⟨⟨"path", .extension⟩, .equal, Value.ofText "md"⟩] }] }
    isFresh? (encode entry (some "s")) "s" = .ok true ∧
      decode? (encode entry (some "s")) =
        .error (.inconsistent (.fieldName 0 ⟨"path", .extension⟩)) := by
  intro entry
  have hfits : (writePayload (payloadOf entry (some "s"))).length < capacity 4 := by decide +kernel
  refine ⟨isFresh?_encode hfits, ?_⟩
  rw [decode?_encode hfits]
  decide +kernel

/-! ### The source of a blob -/

/-- Assumes: an entry, consistent or not, whose payload fits into a blob, and for a blob written
with a text, that another text has another digest.

The blob is fresh for the text that it was written with and for no other, and a blob that was
written without one is fresh for no text. In neither case does the question fail. -/
theorem fresh_for_own_source_only (entry : Entry) :
    (∀ source text : String, (writePayload (payloadOf entry (some source))).length < 2 ^ 32 →
      (sourceDigest source = sourceDigest text → source = text) →
        isFresh? (encode entry (some source)) text = .ok (source == text)) ∧
    ((writePayload (payloadOf entry none)).length < 2 ^ 32 →
      ∀ text : String, isFresh? (encode entry none) text = .ok false) := by
  refine ⟨fun source text hlength hdigest ↦ ?_, fun hlength text ↦ isFresh?_encode_eq hlength text⟩
  have hagree : (some (sourceDigest source) == some (sourceDigest text)) = (source == text) := by
    rw [Bool.eq_iff_iff, beq_iff_eq, beq_iff_eq, Option.some.injEq]
    exact ⟨hdigest, congrArg sourceDigest⟩
  rw [isFresh?_encode_eq hlength, ← hagree]
  rfl

/-- The blob of an inconsistent entry with a nested rule is fresh for the text that it was written
with, and not for a text that differs in the last character. -/
theorem fresh_for_own_source_only_small :
    let entry : Entry :=
      { name := "r", bounds? := some "A",
        rules := [.draft { condition := [.opening, Token.within "A", .closing] },
          .expanded [.comparison ⟨⟨"path", .extension⟩, .equal, Value.ofText "md"⟩]] }
    isFresh? (encode entry (some "rules")) "rules" = .ok true ∧
      isFresh? (encode entry (some "rules")) "ruled" = .ok false ∧
      isFresh? (encode entry none) "rules" = .ok false := by
  intro entry
  have hfits : (writePayload (payloadOf entry (some "rules"))).length < 2 ^ 32 := by decide +kernel
  have hbare : (writePayload (payloadOf entry none)).length < 2 ^ 32 := by decide +kernel
  have hdiffer : sourceDigest "rules" ≠ sourceDigest "ruled" := by decide +kernel
  obtain ⟨hwritten, hunwritten⟩ := fresh_for_own_source_only entry
  exact ⟨hwritten "rules" "rules" hfits fun _ ↦ rfl,
    hwritten "rules" "ruled" hfits fun heq ↦ absurd heq hdiffer, hunwritten hbare "rules"⟩

end DocumentRules.Archive
