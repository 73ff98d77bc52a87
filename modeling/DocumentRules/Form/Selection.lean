import DocumentRules.Collection.SortedSet
import DocumentRules.Condition.Value

/-!
# Selections

Two kinds of form field offer a list of items: in a `CheckList` any of them may be checked, in a
`Choice` at most one is selected. Both refer to items by index, and both carry the proof that an
index they hold is one of an item. A value names an item by its index, if it reads as one, and
otherwise by its label; `lt_length_of_resolveItem?` says that what it names is an item.
-/

set_option autoImplicit false
set_option relaxedAutoImplicit false

namespace DocumentRules.Form

open Collection Condition

/-- The index of the first item with a label. -/
def itemLabelled? (items : List String) (label : String) : Option Nat :=
  items.findIdx? (· == label)

/-- The item that a value names: the one at the value's index, if the value reads as the index of an
item, and otherwise the first one labelled with the value's text. -/
def resolveItem? (items : List String) (value : Value) : Option Nat :=
  match value.toInt? with
  | some (.ofNat index) =>
    if index < items.length then some index else itemLabelled? items value.literal
  | _ => itemLabelled? items value.literal

theorem lt_length_of_itemLabelled? {items : List String} {label : String} {index : Nat}
    (h : itemLabelled? items label = some index) : index < items.length :=
  (List.findIdx?_eq_some_iff_getElem.mp h).1

theorem lt_length_of_resolveItem? {items : List String} {value : Value} {index : Nat}
    (h : resolveItem? items value = some index) : index < items.length := by
  unfold resolveItem? at h
  split at h
  · split at h
    · rename_i hlt
      exact Option.some.inj h ▸ hlt
    · exact lt_length_of_itemLabelled? h
  · exact lt_length_of_itemLabelled? h

/-! ### Check lists -/

/-- Items of which any may be checked. -/
structure CheckList where
  items : List String
  checked : SortedSet Nat
  checked_lt : ∀ index ∈ checked, index < items.length

namespace CheckList

/-- A list of items, none of them checked. -/
def ofItems (items : List String) : CheckList :=
  ⟨items, SortedSet.empty, fun index h ↦ absurd h (SortedSet.notMem_empty index)⟩

/-- Checks the item at an index; an index of no item is ignored. -/
def check (boxes : CheckList) (index : Nat) : CheckList :=
  if h : index < boxes.items.length then
    { boxes with
      checked := boxes.checked.insert index
      checked_lt := fun other hother ↦ by
        rcases SortedSet.mem_insert.mp hother with rfl | hother
        · exact h
        · exact boxes.checked_lt other hother }
  else boxes

/-- Whether the item at an index is checked. -/
def isChecked (boxes : CheckList) (index : Nat) : Bool := boxes.checked.contains index

/-- The number of checked items. -/
def checkedCount (boxes : CheckList) : Nat := boxes.checked.size

/-- The item that a value names. -/
def resolve? (boxes : CheckList) (value : Value) : Option Nat := resolveItem? boxes.items value

end CheckList

/-! ### Choices -/

/-- Items of which at most one is selected. -/
structure Choice where
  items : List String
  selected? : Option Nat
  selected_lt : ∀ index, selected? = some index → index < items.length

namespace Choice

/-- A choice between items, none of them selected. -/
def ofItems (items : List String) : Choice := ⟨items, none, fun _ h ↦ nomatch h⟩

/-- Selects the item at an index in the place of the present one; an index of no item leaves
nothing selected. -/
def select (choice : Choice) (index : Nat) : Choice :=
  if h : index < choice.items.length then
    { choice with selected? := some index, selected_lt := fun _ heq ↦ Option.some.inj heq ▸ h }
  else { choice with selected? := none, selected_lt := fun _ heq ↦ nomatch heq }

/-- The label of the selected item, empty if there is none. -/
def selectedLabel (choice : Choice) : String :=
  (choice.selected?.bind fun index ↦ choice.items[index]?).getD ""

/-- The item that a value names. -/
def resolve? (choice : Choice) (value : Value) : Option Nat := resolveItem? choice.items value

end Choice

end DocumentRules.Form
