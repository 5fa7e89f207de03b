/-
**Notices.**

Work on a stream reports what happens along the way: a source with syntax errors, a call that had to
be skipped, and a summary at the end of each extraction. A computation with notices returns a value
together with the notices in the order in which they were given.

* `Logged` — a value with its notices, a lawful monad.
-/

namespace MessageHarvest

/-- A translator call without a readable message: the line of its first lexeme, if it holds one, and
its text. -/
structure SkippedCall where
  line : Option Int
  source : String
deriving DecidableEq, Repr

/-- What is reported along the way. -/
inductive Notice where
  | syntaxErrors
  | skipping (call : SkippedCall)
  | summary (messages categories skipped : Nat)
deriving DecidableEq, Repr

/-- The line of a skipped call as it is shown to a reader. -/
def SkippedCall.lineText (call : SkippedCall) : String :=
  match call.line with
  | none => "None"
  | some line => toString line

/-- The wording of a notice. -/
def Notice.text : Notice → String
  | syntaxErrors => "Source contains syntax errors, tokens may be approximate"
  | skipping call =>
    "Skipping translator call at line " ++ call.lineText ++ ": " ++ call.source
  | summary messages categories skipped =>
    s!"Extracted {messages} messages in {categories} categories, skipped {skipped} calls"

/-- A value and the notices given on the way to it. -/
structure Logged (α : Type) where
  value : α
  log : List Notice
deriving DecidableEq, Repr

namespace Logged

variable {α β : Type}

/-- Gives one notice. -/
def notify (notice : Notice) : Logged Unit where
  value := ()
  log := [notice]

instance : Monad Logged where
  pure value := { value, log := [] }
  bind first next :=
    { value := (next first.value).value
      log := first.log ++ (next first.value).log }

@[simp]
theorem value_pure (value : α) : (pure value : Logged α).value = value := rfl

@[simp]
theorem log_pure (value : α) : (pure value : Logged α).log = [] := rfl

@[simp]
theorem value_bind (first : Logged α) (next : α → Logged β) :
    (first >>= next).value = (next first.value).value := rfl

@[simp]
theorem log_bind (first : Logged α) (next : α → Logged β) :
    (first >>= next).log = first.log ++ (next first.value).log := rfl

instance : LawfulMonad Logged :=
  LawfulMonad.mk' Logged
    (fun logged => congrArg (Logged.mk logged.value) (List.append_nil logged.log))
    (fun _ _ => rfl)
    (fun _ _ _ => congrArg (Logged.mk _) (List.append_assoc _ _ _))

@[simp]
theorem value_map (function : α → β) (logged : Logged α) :
    (function <$> logged).value = function logged.value := rfl

@[simp]
theorem log_map (function : α → β) (logged : Logged α) :
    (function <$> logged).log = logged.log :=
  List.append_nil logged.log

@[simp]
theorem value_mapM (step : α → Logged β) (items : List α) :
    (items.mapM step).value = items.map fun item => (step item).value := by
  induction items with
  | nil => rfl
  | cons item items ih => simp [List.mapM_cons, ih]

@[simp]
theorem log_mapM (step : α → Logged β) (items : List α) :
    (items.mapM step).log = items.flatMap fun item => (step item).log := by
  induction items with
  | nil => rfl
  | cons item items ih => simp [List.mapM_cons, ih]

end Logged

end MessageHarvest
