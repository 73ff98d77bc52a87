import DocumentRules.Form.Selection

/-!
# Forms

A document may own a form: named fields, each with a text, a check list, or a choice that is shown
as a drop-down list or as a group of radio buttons. A name has one value, and putting a value under
a name that is in use replaces the old one (`get?_put`).
-/

set_option autoImplicit false
set_option relaxedAutoImplicit false

namespace DocumentRules.Form

/-- The value of a field in a form. -/
inductive FieldValue where
  | text (content : String)
  | checks (boxes : CheckList)
  | dropDown (choice : Choice)
  | radio (choice : Choice)

end DocumentRules.Form

namespace DocumentRules

open Form

/-- The fields of a document's form, each name once. -/
structure Form where
  fields : List (String × FieldValue)
  distinct : (fields.map Prod.fst).Nodup

namespace Form

/-- The form without fields. -/
def empty : Form := ⟨[], List.nodup_nil⟩

/-- Puts a value under a name, in the place of any value that the name has. -/
def put (form : Form) (name : String) (value : FieldValue) : Form where
  fields := (name, value) :: form.fields.filter fun field ↦ field.1 != name
  distinct := by
    rw [List.map_cons, List.nodup_cons]
    refine ⟨fun hmem ↦ ?_, (List.filter_sublist.map Prod.fst).nodup form.distinct⟩
    obtain ⟨field, hfield, hname⟩ := List.mem_map.mp hmem
    have hne := (List.mem_filter.mp hfield).2
    simp [hname] at hne

/-- The value under a name. -/
def get? (form : Form) (name : String) : Option FieldValue :=
  (form.fields.find? fun field ↦ field.1 == name).map Prod.snd

/-- The number of fields. -/
def size (form : Form) : Nat := form.fields.length

/-- Whether the form has no field. -/
def isEmpty (form : Form) : Bool := form.fields.isEmpty

theorem get?_put (form : Form) (name other : String) (value : FieldValue) :
    (form.put name value).get? other = if name = other then some value else form.get? other := by
  by_cases h : name = other
  · simp [get?, put, h]
  · have hkeep : (fun field : String × FieldValue ↦
        decide ((field.1 != name) = true ∧ (field.1 == other) = true)) =
        fun field ↦ field.1 == other := by
      funext field
      by_cases hfield : field.1 = other
      · simp [hfield, Ne.symm h]
      · simp [hfield]
    simp only [get?, put, List.find?_cons, beq_eq_false_iff_ne.mpr h, List.find?_filter, hkeep,
      if_neg h]

end Form

end DocumentRules
