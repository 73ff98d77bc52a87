import DocumentRules.Text.Segments

/-!
# Fields

A comparison addresses a field. Eight kinds of field are built in and go by a keyword. Every other
name addresses a field of a document's form and is written `<extension>.<subfield>`: the extension
of the documents that have the form, and the name of the field in it. `ofKeyword?_keyword` says that
a keyword leads back to its kind.
-/

set_option autoImplicit false
set_option relaxedAutoImplicit false

namespace DocumentRules.Condition

open Text

/-- What a comparison is about. -/
inductive FieldKind where
  /-- The extension of a document's resource path. -/
  | extension
  /-- The folder that holds a document. -/
  | path
  /-- Whether a document is enabled. -/
  | enabled
  /-- A field of a document's form. -/
  | formField
  /-- The content, searched without regard to case. -/
  | text
  /-- The content, searched with regard to case. -/
  | caseText
  /-- The content, searched for whole words without regard to case. -/
  | word
  /-- The content, searched for whole words with regard to case. -/
  | caseWord
  /-- The change history of a document's resource path. -/
  | version
  deriving DecidableEq, Repr

namespace FieldKind

/-- Every kind. -/
def all : List FieldKind :=
  [extension, path, enabled, formField, text, caseText, word, caseWord, version]

/-- The keyword of a built-in kind. -/
def keyword? : FieldKind → Option String
  | extension => some "ext"
  | path => some "path"
  | enabled => some "enabled"
  | formField => none
  | text => some "text"
  | caseText => some "case_text"
  | word => some "word"
  | caseWord => some "case_word"
  | version => some "version"

/-- The built-in kind that goes by a keyword. -/
def ofKeyword? (keyword : String) : Option FieldKind :=
  all.find? fun kind ↦ kind.keyword? == some keyword

theorem ofKeyword?_keyword {kind : FieldKind} {keyword : String}
    (h : kind.keyword? = some keyword) : ofKeyword? keyword = some kind := by
  cases kind <;> simp only [keyword?, Option.some.injEq, reduceCtorEq] at h <;> subst h <;> decide

/-- Whether the kind searches the content of a document. -/
def isSearch : FieldKind → Bool
  | text | caseText | word | caseWord => true
  | extension | path | enabled | formField | version => false

/-- The kind's name in the text of an error. -/
def label : FieldKind → String
  | extension => "Extension"
  | path => "Path"
  | enabled => "Enabled"
  | formField => "FormField"
  | text => "Text"
  | caseText => "CaseText"
  | word => "Word"
  | caseWord => "CaseWord"
  | version => "Version"

end FieldKind

/-- A field, by the name that a rule gives it. Nothing ties the name of a built-in kind to its
keyword. -/
structure Field where
  name : String
  kind : FieldKind
  deriving DecidableEq, Repr

namespace Field

/-- The field that a name addresses: a keyword its built-in kind, any other name a form field. -/
def named (name : String) : Field :=
  ⟨name, (FieldKind.ofKeyword? name).getD .formField⟩

/-- The field `subfield` in the forms of the documents with an extension. -/
def form (extension subfield : String) : Field :=
  ⟨extension ++ "." ++ subfield, .formField⟩

/-- The folder that holds a document. -/
def path : Field := ⟨"path", .path⟩

/-- The field addressed anew as a form field of the documents with an extension. -/
def inFormsOf (field : Field) (extension : String) : Field := form extension field.name

/-- The extension and the name of a form field: the parts before and after the first dot, if
neither is empty. -/
def formParts? (field : Field) : Option (String × String) :=
  match cutFirst '.' field.name.toList with
  | some (extension, subfield) =>
    if extension.isEmpty || subfield.isEmpty then none
    else some (String.ofList extension, String.ofList subfield)
  | none => none

end Field

end DocumentRules.Condition
