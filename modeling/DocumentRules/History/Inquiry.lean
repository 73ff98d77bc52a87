import DocumentRules.History.Query

/-!
# Inquiries

Whether a rule holds may hang on a change history, and which queries are made, and in what order,
can be observed by the history. A computation that needs one is therefore an `Inquiry`: it is either
done, or it asks one query and goes on with the answer. What an inquiry comes to under a backend is
`Inquiry.answer`, and the queries it makes on the way are `Inquiry.transcript`. Both are compatible
with sequencing (`answer_bind`, `transcript_bind`).
-/

set_option autoImplicit false
set_option relaxedAutoImplicit false

namespace DocumentRules.History

/-- A computation that may put queries to a change history. -/
inductive Inquiry (α : Type) where
  | done (result : α)
  | ask (query : Query) (next : Answer → Inquiry α)

namespace Inquiry

variable {α β : Type}

/-- One inquiry after the other. -/
def andThen : Inquiry α → (α → Inquiry β) → Inquiry β
  | .done result, following => following result
  | .ask query next, following => .ask query fun answer ↦ (next answer).andThen following

instance : Monad Inquiry where
  pure := .done
  bind := andThen

/-- A single query. -/
def query (query : Query) : Inquiry Answer := .ask query .done

/-- What an inquiry comes to under a backend. -/
def answer (backend : Backend) : Inquiry α → α
  | .done result => result
  | .ask query next => (next (backend query)).answer backend

/-- The queries that an inquiry makes under a backend, in order. -/
def transcript (backend : Backend) : Inquiry α → List Query
  | .done _ => []
  | .ask query next => query :: (next (backend query)).transcript backend

@[simp] theorem answer_pure (backend : Backend) (result : α) :
    (pure result : Inquiry α).answer backend = result := rfl

@[simp] theorem transcript_pure (backend : Backend) (result : α) :
    (pure result : Inquiry α).transcript backend = [] := rfl

@[simp] theorem answer_query (backend : Backend) (asked : Query) :
    (query asked).answer backend = backend asked := rfl

@[simp] theorem transcript_query (backend : Backend) (asked : Query) :
    (query asked).transcript backend = [asked] := rfl

@[simp] theorem answer_bind (backend : Backend) (inquiry : Inquiry α)
    (following : α → Inquiry β) :
    (inquiry >>= following).answer backend =
      (following (inquiry.answer backend)).answer backend := by
  induction inquiry with
  | done result => rfl
  | ask query next ih => exact ih (backend query)

@[simp] theorem transcript_bind (backend : Backend) (inquiry : Inquiry α)
    (following : α → Inquiry β) :
    (inquiry >>= following).transcript backend =
      inquiry.transcript backend ++ (following (inquiry.answer backend)).transcript backend := by
  induction inquiry with
  | done result => rfl
  | ask query next ih => exact congrArg (query :: ·) (ih (backend query))

/-! ### Inquiries over lists -/

/-- An inquiry for each member of a list, in order, with all their results. -/
def forEach (inquire : α → Inquiry β) : List α → Inquiry (List β)
  | [] => pure []
  | first :: rest => do
    let result ← inquire first
    let results ← forEach inquire rest
    return result :: results

@[simp] theorem answer_forEach (backend : Backend) (inquire : α → Inquiry β) (members : List α) :
    (forEach inquire members).answer backend =
      members.map fun member ↦ (inquire member).answer backend := by
  induction members with
  | nil => rfl
  | cons first rest ih => simp [forEach, ih]

@[simp] theorem transcript_forEach (backend : Backend) (inquire : α → Inquiry β)
    (members : List α) :
    (forEach inquire members).transcript backend =
      members.flatMap fun member ↦ (inquire member).transcript backend := by
  induction members with
  | nil => rfl
  | cons first rest ih => simp [forEach, ih]

/-- The members of a list for which an inquiry comes to true, in order. -/
def select (inquire : α → Inquiry Bool) : List α → Inquiry (List α)
  | [] => pure []
  | first :: rest => do
    let chosen ← inquire first
    let others ← select inquire rest
    return if chosen then first :: others else others

@[simp] theorem answer_select (backend : Backend) (inquire : α → Inquiry Bool)
    (members : List α) :
    (select inquire members).answer backend =
      members.filter fun member ↦ (inquire member).answer backend := by
  induction members with
  | nil => rfl
  | cons first rest ih => simp [select, ih, List.filter_cons]

end Inquiry

end DocumentRules.History
