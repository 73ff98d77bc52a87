import DocumentRules.Proofs.Form.Items

/-!
# Check lists compared

Equality asks whether one item of a check list is checked, and an order asks how many are. The two
agree (`check_list_counts_what_it_contains`): the number that `<`, `<=`, `>` and `>=` compare is the
number of items of which `==` holds. This rests on two facts. A check list holds indices of items
only, and none twice (`checkedCount_eq_countP`), and the decimal form of the index of an item names
that item, whatever the labels are, so that no item is left out or counted for another one.

Assumed is only that a signed 64-bit word can count the items, as it can for every list in memory:
an index beyond could not be read.
-/

set_option autoImplicit false
set_option relaxedAutoImplicit false

namespace DocumentRules.Form.CheckList

open Collection

/-! ### Checked items -/

/-- A list of items of which some are checked, one after the other. -/
def ofChecks (items : List String) (indices : List Nat) : CheckList :=
  indices.foldl check (ofItems items)

@[simp] theorem items_check (boxes : CheckList) (index : Nat) :
    (boxes.check index).items = boxes.items := by
  unfold check
  split <;> rfl

theorem mem_checked_check {boxes : CheckList} {index other : Nat} :
    other ∈ (boxes.check index).checked ↔
      other ∈ boxes.checked ∨ other = index ∧ other < boxes.items.length := by
  unfold check
  split
  · rename_i hlt
    rw [SortedSet.mem_insert, or_comm]
    exact or_congr_right ⟨fun heq ↦ ⟨heq, heq ▸ hlt⟩, And.left⟩
  · rename_i hge
    refine ⟨.inl, ?_⟩
    rintro (hmem | ⟨rfl, hlt⟩)
    · exact hmem
    · exact absurd hlt hge

@[simp] theorem items_foldl_check (boxes : CheckList) (indices : List Nat) :
    (indices.foldl check boxes).items = boxes.items := by
  induction indices generalizing boxes with
  | nil => rfl
  | cons index rest ih => rw [List.foldl_cons, ih, items_check]

theorem mem_checked_foldl_check {boxes : CheckList} {indices : List Nat} {other : Nat} :
    other ∈ (indices.foldl check boxes).checked ↔
      other ∈ boxes.checked ∨ other ∈ indices ∧ other < boxes.items.length := by
  induction indices generalizing boxes with
  | nil => simp
  | cons index rest ih =>
    rw [List.foldl_cons, ih, mem_checked_check, items_check, List.mem_cons, or_and_right, or_assoc]

@[simp] theorem items_ofChecks (items : List String) (indices : List Nat) :
    (ofChecks items indices).items = items :=
  items_foldl_check _ _

theorem isChecked_ofChecks {items : List String} {indices : List Nat} {index : Nat} :
    (ofChecks items indices).isChecked index = true ↔ index ∈ indices ∧ index < items.length := by
  rw [isChecked, SortedSet.contains_iff, ofChecks, mem_checked_foldl_check]
  exact or_iff_right (SortedSet.notMem_empty index)

/-- The number of checked items is the number of items that are checked: every index that a check
list holds is one of an item, and it holds none twice. -/
theorem checkedCount_eq_countP (boxes : CheckList) :
    boxes.checkedCount = (List.range boxes.items.length).countP boxes.isChecked := by
  rw [List.countP_eq_length_filter]
  refine List.Perm.length_eq ((List.perm_ext_iff_of_nodup boxes.checked.nodup_toList
    (List.nodup_range.filter _)).mpr fun index ↦ ?_)
  rw [SortedSet.mem_toList, List.mem_filter, List.mem_range, isChecked, SortedSet.contains_iff]
  exact ⟨fun h ↦ ⟨boxes.checked_lt index h, h⟩, And.right⟩

end DocumentRules.Form.CheckList

namespace DocumentRules.Evaluation

open Condition Form Text

/-! ### Comparisons of a check list -/

variable {boxes : CheckList} {operator : Operator} {value : Value}

theorem compareChecks_of_namesItem (hoperator : operator.mayEqual = true) {index : Nat}
    (hnames : NamesItem boxes.items value index) :
    compareChecks boxes operator value = operator.testEquality (boxes.isChecked index) := by
  rw [compareChecks, if_pos hoperator, CheckList.resolve?, resolveItem?_eq_some_iff.mpr hnames]

theorem compareChecks_of_forall_not_namesItem (hoperator : operator.mayEqual = true)
    (hnames : ∀ index, ¬ NamesItem boxes.items value index) :
    compareChecks boxes operator value = false := by
  rw [compareChecks, if_pos hoperator, CheckList.resolve?, resolveItem?_eq_none_iff.mpr hnames]

theorem compareChecks_of_readsAs (hoperator : operator.mayEqual = false) {number : Int}
    (hread : value.ReadsAs number) :
    compareChecks boxes operator value =
      operator.test (compare (boxes.checkedCount : Int) number) := by
  rw [compareChecks, hoperator, if_neg Bool.false_ne_true, Value.toInt?_eq_some_iff.mpr hread]

/-- Assumes: as many items as a signed 64-bit word can count. The number of checked items is the
number of items that are equal to their index. -/
theorem checkedCount_eq_countP_compareChecks (boxes : CheckList)
    (hitems : FitsWord boxes.items.length) :
    boxes.checkedCount = (List.range boxes.items.length).countP fun index : Nat ↦
      compareChecks boxes .equal (.ofInt index) := by
  rw [boxes.checkedCount_eq_countP]
  refine List.countP_congr fun index hmem ↦ ?_
  have hlt : index < boxes.items.length := List.mem_range.mp hmem
  have hread : (Value.ofInt index).ReadsAs index :=
    Value.readsAs_ofInt (hitems.natCast_of_le hlt.le)
  rw [compareChecks_of_namesItem rfl (.place hread hlt)]
  rfl

/-- Assumes: as many items as a signed 64-bit word can count, some of them checked one after the
other, indices of no item included, and a field of a form that holds the check list.

An order compares the number of items that are equal to their index with the integer that the value
reads as, and every integer of a signed 64-bit word has a value that reads as it. Of a value that
names an item `==` holds if the item was checked, and `!=` if not; of any other value neither
holds. -/
theorem check_list_counts_what_it_contains {items : List String} (hitems : FitsWord items.length)
    (indices : List Nat) {field : Field} {extension : String} {form : Form}
    (hfield : Addresses field extension form (.checks (.ofChecks items indices))) :
    let holds (operator : Operator) (value : Value) : Bool :=
      compareFormField (some extension) (some form) ⟨field, operator, value⟩
    (∀ number : Int64, (Value.ofInt number.toInt).ReadsAs number.toInt ∧
      ∀ value : Value, value.ReadsAs number.toInt →
        ∀ operator ∈ [Operator.less, .lessEqual, .more, .moreEqual],
          (holds operator value = true ↔ operator.Relates
            ((List.range items.length).countP fun index : Nat ↦ holds .equal (.ofInt index))
            number.toInt)) ∧
    ∀ value : Value,
      (∀ index, NamesItem items value index →
        (holds .equal value = true ↔ index ∈ indices) ∧
        holds .notEqual value = !holds .equal value) ∧
      ((∀ index, ¬ NamesItem items value index) →
        holds .equal value = false ∧ holds .notEqual value = false) := by
  intro holds
  have hholds (operator : Operator) (value : Value) :
      holds operator value = compareChecks (.ofChecks items indices) operator value :=
    hfield.compareFormField_eq operator value
  have hcount := checkedCount_eq_countP_compareChecks (.ofChecks items indices)
    (by rwa [CheckList.items_ofChecks])
  rw [CheckList.items_ofChecks] at hcount
  simp only [hholds, ← hcount]
  refine ⟨fun number ↦ ⟨Value.readsAs_ofInt (fitsWord_toInt number), ?_⟩,
    fun value ↦ ⟨fun index hnames ↦ ?_, fun hnames ↦ ?_⟩⟩
  · intro value hread operator hmem
    have hoperator : operator.mayEqual = false := by
      revert operator
      decide
    rw [compareChecks_of_readsAs hoperator hread, Operator.test_compare_iff]
  · have hlt := hnames.lt_length
    rw [← CheckList.items_ofChecks items indices] at hnames
    rw [compareChecks_of_namesItem rfl hnames, compareChecks_of_namesItem rfl hnames]
    exact ⟨CheckList.isChecked_ofChecks.trans (and_iff_left hlt), rfl⟩
  · rw [← CheckList.items_ofChecks items indices] at hnames
    exact ⟨compareChecks_of_forall_not_namesItem rfl hnames,
      compareChecks_of_forall_not_namesItem rfl hnames⟩

/-- Items labelled with numbers, the first and the last of them checked: `0` names the first one and
not the one with this label, `7` names the last one by its label, and `-1` names none. -/
theorem check_list_counts_what_it_contains_numbers :
    let items := ["2", "0", "7"]
    let indices := [2, 9, 0, 2]
    let form := Form.empty.put "tags" (.checks (.ofChecks items indices))
    let holds (operator : Operator) (text : String) : Bool :=
      compareFormField (some "frm") (some form) ⟨Field.form "frm" "tags", operator, .ofText text⟩
    FitsWord items.length ∧
      Addresses (Field.form "frm" "tags") "frm" form (.checks (.ofChecks items indices)) ∧
      holds .moreEqual " +02" = true ∧ holds .equal "0" = true ∧ holds .notEqual "7" = false ∧
      holds .notEqual "-1" = false := by
  intro items indices form holds
  have hitems : FitsWord items.length := by decide
  have hsplits : (Field.form "frm" "tags").Splits "frm" "tags" :=
    Field.formParts?_eq_some_iff.mp (by decide)
  have hfield : Addresses (Field.form "frm" "tags") "frm" form
      (.checks (.ofChecks items indices)) := ⟨"tags", hsplits, rfl⟩
  obtain ⟨hcount, hnames⟩ := check_list_counts_what_it_contains hitems indices hfield
  have htwo : (Value.ofText " +02").ReadsAs (2 : Int64).toInt :=
    Value.toInt?_eq_some_iff.mp (by decide)
  have hfirst : NamesItem items (.ofText "0") 0 := resolveItem?_eq_some_iff.mp (by decide)
  have hlast : NamesItem items (.ofText "7") 2 := resolveItem?_eq_some_iff.mp (by decide)
  have hnone : ∀ index, ¬ NamesItem items (.ofText "-1") index :=
    resolveItem?_eq_none_iff.mp (by decide)
  have hequal : holds .equal "7" = true := ((hnames _).1 2 hlast).1.mpr (by decide)
  refine ⟨hitems, hfield, ?_, ((hnames _).1 0 hfirst).1.mpr (by decide), ?_, ((hnames _).2 hnone).2⟩
  · exact ((hcount 2).2 _ htwo .moreEqual (by decide)).mpr (by decide)
  · exact ((hnames _).1 2 hlast).2.trans (congrArg not hequal)

end DocumentRules.Evaluation
