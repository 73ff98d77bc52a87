import DocumentRules.Proofs.Form.Items

/-!
# Choices compared

A choice is compared with a value by the places of two items, that of the selected one and that of
the one that the value names, and no selection is below all of them. So the six operators fit
together as those of a linear order do (`IsTrichotomy`), and it makes no difference whether the
choice is shown as a drop-down list or as radio buttons.

With a value that names no item the two differ (`choice_comparisons_fit_together`). No comparison of
radio buttons holds then. A drop-down list treats the value as no selection, which any selected item
is above. Only without a selection on either side is there nothing to order, and the value is
compared with the label of no item, which is empty.
-/

set_option autoImplicit false
set_option relaxedAutoImplicit false

namespace DocumentRules.Form.Choice

/-! ### Selections -/

/-- A choice between items of which some are selected, one after the other. -/
def ofSelections (items : List String) (indices : List Nat) : Choice :=
  indices.foldl select (ofItems items)

@[simp] theorem items_select (choice : Choice) (index : Nat) :
    (choice.select index).items = choice.items := by
  unfold select
  split <;> rfl

theorem selected?_select (choice : Choice) (index : Nat) :
    (choice.select index).selected? = (some index).filter (· < choice.items.length) := by
  rw [Option.filter_some]
  unfold select
  split
  · rename_i hlt
    exact (if_pos (decide_eq_true hlt)).symm
  · rename_i hge
    exact (if_neg (mt of_decide_eq_true hge)).symm

theorem ofSelections_concat (items : List String) (earlier : List Nat) (last : Nat) :
    ofSelections items (earlier ++ [last]) = (ofSelections items earlier).select last := by
  rw [ofSelections, List.foldl_append]
  rfl

@[simp] theorem items_ofSelections (items : List String) (indices : List Nat) :
    (ofSelections items indices).items = items := by
  induction indices using List.reverseRecOn with
  | nil => rfl
  | append_singleton earlier last ih => rw [ofSelections_concat, items_select, ih]

/-- What is selected is what was selected last, if it is an item. -/
theorem selected?_ofSelections (items : List String) (indices : List Nat) :
    (ofSelections items indices).selected? = indices.getLast?.filter (· < items.length) := by
  induction indices using List.reverseRecOn with
  | nil => rfl
  | append_singleton earlier last _ =>
    rw [ofSelections_concat, selected?_select, items_ofSelections, List.getLast?_concat]

end DocumentRules.Form.Choice

namespace DocumentRules.Evaluation

open Condition Form

/-! ### Operators that fit together -/

/-- The operators hold, or not, as those of a linear order do between two of its elements. -/
structure IsTrichotomy (holds : Operator → Bool) : Prop where
  existsUnique : ∃! operator, operator ∈ [Operator.less, .equal, .more] ∧ holds operator = true
  lessEqual_eq : holds .lessEqual = (holds .less || holds .equal)
  moreEqual_eq : holds .moreEqual = (holds .more || holds .equal)
  notEqual_eq : holds .notEqual = !holds .equal

theorem isTrichotomy_test (order : Ordering) :
    IsTrichotomy fun operator ↦ operator.test order where
  existsUnique := by
    cases order with
    | lt =>
      refine ⟨.less, by decide, fun operator h ↦ ?_⟩
      cases operator <;> revert h <;> decide
    | eq =>
      refine ⟨.equal, by decide, fun operator h ↦ ?_⟩
      cases operator <;> revert h <;> decide
    | gt =>
      refine ⟨.more, by decide, fun operator h ↦ ?_⟩
      cases operator <;> revert h <;> decide
  lessEqual_eq := by cases order <;> rfl
  moreEqual_eq := by cases order <;> rfl
  notEqual_eq := by cases order <;> rfl

/-! ### Comparisons of a choice -/

variable {choice : Choice} {operator : Operator} {value : Value}

/-- No selection is below every item. -/
theorem ordinal_none_lt (index : Nat) : ordinal none < index := by
  rw [ordinal]
  omega

/-- With a value that names an item the places are compared. -/
theorem compareDropDown_of_namesItem {index : Nat} (hnames : NamesItem choice.items value index) :
    compareDropDown choice operator value =
      operator.test (compare (ordinal choice.selected?) index) := by
  have hresolve : choice.resolve? value = some index := resolveItem?_eq_some_iff.mpr hnames
  rw [compareDropDown, hresolve, Option.isNone_some, Bool.and_false, if_neg Bool.false_ne_true]
  rfl

theorem compareDropDown_less_of_unselected (hselected : choice.selected? = none) {index : Nat}
    (hnames : NamesItem choice.items value index) : compareDropDown choice .less value = true := by
  rw [compareDropDown_of_namesItem hnames, hselected, Operator.test_compare_iff]
  exact ordinal_none_lt index

theorem compareDropDown_iff_relates {place : Nat} (hselected : choice.selected? = some place)
    {index : Nat} (hnames : NamesItem choice.items value index) :
    compareDropDown choice operator value = true ↔ operator.Relates place index := by
  rw [compareDropDown_of_namesItem hnames, hselected]
  exact Operator.test_compare_iff

theorem compareRadio_of_namesItem {index : Nat} (hnames : NamesItem choice.items value index) :
    compareRadio choice operator value = compareDropDown choice operator value := by
  have hresolve : choice.resolve? value = some index := resolveItem?_eq_some_iff.mpr hnames
  rw [compareRadio, hresolve, Option.isSome_some, Bool.true_and]

theorem compareRadio_of_forall_not_namesItem
    (hnames : ∀ index, ¬ NamesItem choice.items value index) :
    compareRadio choice operator value = false := by
  have hresolve : choice.resolve? value = none := resolveItem?_eq_none_iff.mpr hnames
  rw [compareRadio, hresolve, Option.isSome_none, Bool.false_and]

/-- A selected item is above a value that names no item. -/
theorem compareDropDown_of_selected {place : Nat} (hselected : choice.selected? = some place)
    (hnames : ∀ index, ¬ NamesItem choice.items value index) :
    compareDropDown choice operator value = operator.test .gt := by
  have hresolve : choice.resolve? value = none := resolveItem?_eq_none_iff.mpr hnames
  have hcompare : compare (ordinal (some place)) (ordinal none) = .gt :=
    Int.compare_eq_gt.mpr (ordinal_none_lt place)
  rw [compareDropDown, hresolve, hselected, Option.isNone_some, Bool.false_and,
    if_neg Bool.false_ne_true, hcompare]

/-- Without a selection a value that names no item is compared with the empty label. -/
theorem compareDropDown_of_unselected (hselected : choice.selected? = none)
    (hnames : ∀ index, ¬ NamesItem choice.items value index) :
    compareDropDown choice operator value = operator.testEquality (value.literal == "") := by
  have hresolve : choice.resolve? value = none := resolveItem?_eq_none_iff.mpr hnames
  have hlabel : choice.selectedLabel = "" := by rw [Choice.selectedLabel, hselected]; rfl
  rw [compareDropDown, hresolve, hselected, Option.isNone_none, Bool.true_and, if_pos rfl, hlabel,
    Bool.beq_comm]

/-- Assumes: a choice between items, some of them selected one after the other, indices of no item
included, and two fields of forms that hold the choice, one as a drop-down list and one as radio
buttons.

What is selected is what was selected last, if it is an item. With a value that names an item the
two fields are compared alike, and the operators fit together: they compare the places of the
selected item and of the named one, and without a selection `<` holds. With any other value no
comparison of the radio buttons holds. Of the drop-down list `>`, `>=` and `!=` hold then if an item
is selected, and otherwise only `==` if the value is empty and only `!=` if it is not. -/
theorem choice_comparisons_fit_together {items : List String} {indices : List Nat}
    {menu buttons : Field} {menuExtension buttonsExtension : String} {menuForm buttonsForm : Form}
    (hmenu : Addresses menu menuExtension menuForm (.dropDown (.ofSelections items indices)))
    (hbuttons :
      Addresses buttons buttonsExtension buttonsForm (.radio (.ofSelections items indices))) :
    let selected? := (Choice.ofSelections items indices).selected?
    let dropDown (operator : Operator) (value : Value) : Bool :=
      compareFormField (some menuExtension) (some menuForm) ⟨menu, operator, value⟩
    let radio (operator : Operator) (value : Value) : Bool :=
      compareFormField (some buttonsExtension) (some buttonsForm) ⟨buttons, operator, value⟩
    selected? = indices.getLast?.filter (· < items.length) ∧
    ∀ value : Value,
      (∀ index, NamesItem items value index →
        (∀ operator, radio operator value = dropDown operator value) ∧
        IsTrichotomy (dropDown · value) ∧
        (selected? = none → dropDown .less value = true) ∧
        ∀ place, selected? = some place →
          ∀ operator : Operator, dropDown operator value = true ↔ operator.Relates place index) ∧
      ((∀ index, ¬ NamesItem items value index) →
        (∀ operator, radio operator value = false) ∧
        (selected? ≠ none → ∀ operator,
          (dropDown operator value = true ↔ operator ∈ [Operator.more, .moreEqual, .notEqual])) ∧
        (selected? = none → ∀ operator,
          (dropDown operator value = true ↔
            operator = if value.literal = "" then .equal else .notEqual))) := by
  intro selected? dropDown radio
  have hdropDown (operator : Operator) (value : Value) :
      dropDown operator value = compareDropDown (.ofSelections items indices) operator value :=
    hmenu.compareFormField_eq operator value
  have hradio (operator : Operator) (value : Value) :
      radio operator value = compareRadio (.ofSelections items indices) operator value :=
    hbuttons.compareFormField_eq operator value
  simp only [hdropDown, hradio]
  refine ⟨Choice.selected?_ofSelections items indices, fun value ↦ ⟨fun index hnames ↦ ?_,
    fun hnames ↦ ?_⟩⟩ <;> rw [← Choice.items_ofSelections items indices] at hnames
  · refine ⟨fun operator ↦ compareRadio_of_namesItem hnames, ?_,
      fun hselected ↦ compareDropDown_less_of_unselected hselected hnames,
      fun place hselected operator ↦ compareDropDown_iff_relates hselected hnames⟩
    simpa only [compareDropDown_of_namesItem hnames] using isTrichotomy_test _
  · refine ⟨fun operator ↦ compareRadio_of_forall_not_namesItem hnames, fun hselected operator ↦ ?_,
      fun hselected operator ↦ ?_⟩
    · obtain ⟨place, hplace⟩ := Option.ne_none_iff_exists'.mp hselected
      rw [compareDropDown_of_selected hplace hnames]
      cases operator <;> decide
    · rw [compareDropDown_of_unselected hselected hnames]
      by_cases hempty : value.literal = ""
      · rw [if_pos hempty, hempty]
        cases operator <;> decide
      · rw [if_neg hempty, beq_false_of_ne hempty]
        cases operator <;> decide

/-- A choice whose selection is lost, in a form that shows it in both ways: it is below the item
that `0` names, which is not the one with this label. Of the values that name no item the drop-down
list is equal to the empty one, and the radio buttons are not even unequal to the other. -/
theorem choice_comparisons_fit_together_unselected :
    let choice := Choice.ofSelections ["2", "0", "low"] [1, 9]
    let form := (Form.empty.put "menu" (.dropDown choice)).put "buttons" (.radio choice)
    let menu := Field.form "frm" "menu"
    let buttons := Field.form "frm" "buttons"
    let holds (field : Field) (operator : Operator) (text : String) : Bool :=
      compareFormField (some "frm") (some form) ⟨field, operator, .ofText text⟩
    Addresses menu "frm" form (.dropDown choice) ∧ Addresses buttons "frm" form (.radio choice) ∧
      holds menu .less "0" = true ∧ holds buttons .less "0" = true ∧ holds menu .equal "" = true ∧
      holds menu .notEqual "high" = true ∧ holds buttons .notEqual "high" = false := by
  intro choice form menu buttons holds
  have hmenu : Addresses menu "frm" form (.dropDown choice) :=
    ⟨"menu", Field.formParts?_eq_some_iff.mp (by decide), rfl⟩
  have hbuttons : Addresses buttons "frm" form (.radio choice) :=
    ⟨"buttons", Field.formParts?_eq_some_iff.mp (by decide), rfl⟩
  obtain ⟨hselected, hvalues⟩ := choice_comparisons_fit_together hmenu hbuttons
  have hfirst : NamesItem ["2", "0", "low"] (.ofText "0") 0 :=
    resolveItem?_eq_some_iff.mp (by decide)
  have hempty : ∀ index, ¬ NamesItem ["2", "0", "low"] (.ofText "") index :=
    resolveItem?_eq_none_iff.mp (by decide)
  have hnone : ∀ index, ¬ NamesItem ["2", "0", "low"] (.ofText "high") index :=
    resolveItem?_eq_none_iff.mp (by decide)
  obtain ⟨halike, -, hbelow, -⟩ := (hvalues _).1 0 hfirst
  obtain ⟨-, -, hmenuEmpty⟩ := (hvalues _).2 hempty
  obtain ⟨hradio, -, hmenuNone⟩ := (hvalues _).2 hnone
  have hlost : choice.selected? = none := hselected
  have hless : holds menu .less "0" = true := hbelow hlost
  exact ⟨hmenu, hbuttons, hless, (halike .less).trans hless,
    (hmenuEmpty hlost .equal).mpr (by decide), (hmenuNone hlost .notEqual).mpr (by decide),
    hradio .notEqual⟩

end DocumentRules.Evaluation
