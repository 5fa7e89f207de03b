/-
**A scan, call by call.**

The scan files every message under its category at once, at each level of nesting anew. The records
of a stream say the same without a catalogue: one record for each call, in the order in which the
calls stand, and the records of a call's parameters right behind its own.

* `recordsAs` — the records of a stream, given what is kept of a skipped call. No default category
  enters them.
* `records` — the records that keep what is shown to a reader.
* `value_scan_eq_ofRecords` — the scan of a stream groups the messages of its records and lists the
  calls that they skip.
* `scan_groups_records` — the same part by part, with the number of messages.
-/

import MessageHarvest.Proofs.CallLayout
import MessageHarvest.Proofs.Grouping
import MessageHarvest.Scan

namespace MessageHarvest

/-! ### Reading a closed call -/

namespace Call

/-- What a closed call says, by its groups. -/
theorem read_closed (tokens arguments : List Token) :
    (closed tokens arguments).read =
      match Groups.split? arguments with
      | none => .unbalanced
      | some groups =>
        match Literal.value? groups.first with
        | none => .notLiteral
        | some id => .message id (groups.others[1]?.bind Literal.value?) groups.others[0]? := by
  rw [read, CallParameters.ofArguments?]
  cases Groups.split? arguments with
  | none => rfl
  | some groups =>
    rw [Option.map_some]
    cases literal : Literal.value? groups.first <;> simp only [CallParameters.ofGroups, literal]

theorem read_of_split {tokens arguments : List Token} {groups : Groups} {id : String}
    (splits : Groups.split? arguments = some groups)
    (literal : Literal.value? groups.first = some id) :
    (closed tokens arguments).read =
      .message id (groups.others[1]?.bind Literal.value?) groups.others[0]? := by
  rw [read_closed, splits]
  simp only [literal]

/-- The second group of a call with a message is its parameters. -/
theorem hasParameters_of_split {tokens arguments group : List Token} {groups : Groups} {id : String}
    (splits : Groups.split? arguments = some groups) (literal : Literal.value? groups.first = some id)
    (second : groups.others[0]? = some group) : (closed tokens arguments).HasParameters group := by
  refine ⟨id, groups.others[1]?.bind Literal.value?, ?_⟩
  rw [read_of_split splits literal, second]

/-- A call with a message is closed, its arguments can be split, and the first group is the message.
-/
theorem exists_groups_of_read {call : Call} {id : String} {category : Option String}
    {parameters : Option (List Token)} (reads : call.read = .message id category parameters) :
    ∃ tokens arguments groups, call = closed tokens arguments ∧
      Groups.split? arguments = some groups ∧ Literal.value? groups.first = some id ∧
      category = groups.others[1]?.bind Literal.value? ∧ parameters = groups.others[0]? := by
  cases call with
  | unclosed tokens => cases reads
  | closed tokens arguments =>
    rw [read_closed] at reads
    cases splits : Groups.split? arguments with
    | none => simp [splits] at reads
    | some groups =>
      cases literal : Literal.value? groups.first with
      | none => simp [splits, literal] at reads
      | some value =>
        simp only [splits, literal, Reading.message.injEq] at reads
        obtain ⟨rfl, rfl, rfl⟩ := reads
        exact ⟨tokens, arguments, groups, rfl, splits, literal, rfl, rfl⟩

/-- The call has no message that can be read. -/
def Unreadable (call : Call) : Prop :=
  ∀ id category parameters, call.read ≠ .message id category parameters

theorem unreadable_or_message (call : Call) :
    call.Unreadable ∨ ∃ id category parameters, call.read = .message id category parameters := by
  cases reads : call.read with
  | unclosed => exact Or.inl fun _ _ _ same => by rw [reads] at same; cases same
  | unbalanced => exact Or.inl fun _ _ _ same => by rw [reads] at same; cases same
  | notLiteral => exact Or.inl fun _ _ _ same => by rw [reads] at same; cases same
  | message id category parameters => exact Or.inr ⟨id, category, parameters, rfl⟩

variable {call : Call} {defaultCategory id : String} {category : Option String}
  {rescan : (group : List Token) → call.HasParameters group → Logged Extraction}

theorem resolve_of_unreadable (unreadable : call.Unreadable) :
    call.resolve defaultCategory rescan = call.skip := by
  unfold resolve
  split
  · rfl
  · rfl
  · rfl
  · rename_i reads
    exact absurd reads (unreadable _ _ _)
  · rename_i reads
    exact absurd reads (unreadable _ _ _)

theorem resolve_of_message (reads : call.read = .message id category none) :
    call.resolve defaultCategory rescan =
      pure (.ofMessage { category := category.getD defaultCategory, id } Extraction.empty) := by
  unfold resolve
  split <;> rename_i other <;> rw [reads] at other <;> cases other
  rfl

theorem resolve_of_parameters {group : List Token}
    (reads : call.read = .message id category (some group)) :
    call.resolve defaultCategory rescan = (do
      return .ofMessage { category := category.getD defaultCategory, id }
        (← rescan group ⟨id, category, reads⟩)) := by
  unfold resolve
  split <;> rename_i other <;> rw [reads] at other <;> cases other
  rfl

end Call

/-! ### The records of a stream -/

/-- What one call comes to: it is skipped, and something of it is kept, or it has a message, under a
category if it names one. -/
inductive Record (Kept : Type) where
  | skip (call : Kept)
  | message (category : Option String) (id : String)
deriving DecidableEq, Repr

namespace Record

variable {Kept Shown : Type}

/-- What is kept of a call that is skipped. -/
def skipped? : Record Kept → Option Kept
  | skip call => some call
  | message _ _ => none

/-- Whether a record has a message. -/
def isMessage : Record Kept → Bool
  | skip _ => false
  | message _ _ => true

/-- The message of a record, under the default category if it names none. -/
def message? (defaultCategory : String) : Record Kept → Option Message
  | skip _ => none
  | message category id => some { category := category.getD defaultCategory, id }

/-- The record with something else kept of a skipped call. -/
def map (change : Kept → Shown) : Record Kept → Record Shown
  | skip call => skip (change call)
  | message category id => message category id

theorem filterMap_skipped?_map (change : Kept → Shown) (records : List (Record Kept)) :
    (records.map (map change)).filterMap skipped? = (records.filterMap skipped?).map change := by
  rw [List.filterMap_map, List.map_filterMap]
  congr 1
  funext record
  cases record <;> rfl

/-- Messages do not depend on what is kept of skipped calls. -/
theorem filterMap_message?_map (change : Kept → Shown) (defaultCategory : String)
    (records : List (Record Kept)) :
    (records.map (map change)).filterMap (message? defaultCategory) =
      records.filterMap (message? defaultCategory) := by
  rw [List.filterMap_map]
  congr 1
  funext record
  cases record <;> rfl

end Record

/-- The records of a call, given what is kept of a skipped call and the records of the parameters. -/
def Call.recordsAs {Kept : Type} (keep : Call → Kept) (call : Call)
    (nested : (group : List Token) → call.HasParameters group → List (Record Kept)) :
    List (Record Kept) :=
  match call with
  | unclosed tokens => [.skip (keep (unclosed tokens))]
  | closed tokens arguments =>
    match splits : Groups.split? arguments with
    | none => [.skip (keep (closed tokens arguments))]
    | some groups =>
      match literal : Literal.value? groups.first with
      | none => [.skip (keep (closed tokens arguments))]
      | some id =>
        .message (groups.others[1]?.bind Literal.value?) id ::
          match second : groups.others[0]? with
          | none => []
          | some group => nested group (hasParameters_of_split splits literal second)

namespace Call

variable {Kept : Type} {keep : Call → Kept} {call : Call} {id : String} {category : Option String}
  {nested : (group : List Token) → call.HasParameters group → List (Record Kept)}

theorem recordsAs_of_unreadable (unreadable : call.Unreadable) :
    call.recordsAs keep nested = [.skip (keep call)] := by
  cases call with
  | unclosed tokens => rfl
  | closed tokens arguments =>
    rw [recordsAs]
    split
    · rfl
    · rename_i groups splits
      split
      · rfl
      · rename_i id literal
        exact absurd (read_of_split splits literal) (unreadable _ _ _)

/-- The records of a call whose groups are known. -/
theorem recordsAs_of_split {tokens arguments : List Token} {groups : Groups}
    {nested : (group : List Token) →
      (closed tokens arguments).HasParameters group → List (Record Kept)}
    (splits : Groups.split? arguments = some groups)
    (literal : Literal.value? groups.first = some id) :
    (closed tokens arguments).recordsAs keep nested =
      .message (groups.others[1]?.bind Literal.value?) id ::
        match second : groups.others[0]? with
        | none => []
        | some group => nested group (hasParameters_of_split splits literal second) := by
  rw [recordsAs]
  split
  · rename_i fails
    rw [fails] at splits
    cases splits
  · rename_i others found
    obtain rfl := Option.some.inj (splits.symm.trans found)
    split
    · rename_i fails
      rw [fails] at literal
      cases literal
    · rename_i value found
      obtain rfl := Option.some.inj (literal.symm.trans found)
      rfl

theorem recordsAs_of_message (reads : call.read = .message id category none) :
    call.recordsAs keep nested = [.message category id] := by
  obtain ⟨tokens, arguments, groups, rfl, splits, literal, rfl, absent⟩ :=
    exists_groups_of_read reads
  rw [recordsAs_of_split splits literal]
  congr 1
  split
  · rfl
  · rename_i present
    rw [← absent] at present
    cases present

theorem recordsAs_of_parameters {group : List Token}
    (reads : call.read = .message id category (some group)) :
    call.recordsAs keep nested = .message category id :: nested group ⟨id, category, reads⟩ := by
  obtain ⟨tokens, arguments, groups, rfl, splits, literal, rfl, present⟩ :=
    exists_groups_of_read reads
  rw [recordsAs_of_split splits literal]
  congr 1
  split
  · rename_i absent
    rw [← present] at absent
    cases absent
  · rename_i second
    rw [← present] at second
    cases second
    rfl

end Call

/-- The records of a stream: those of its outermost calls in order, each followed by the records of
its parameters. -/
def recordsAs {Kept : Type} (keep : Call → Kept) (pattern : Pattern) (stream : List Token) :
    List (Record Kept) :=
  (calls pattern stream).attach.flatMap fun ⟨call, member⟩ =>
    call.recordsAs keep fun group parameters =>
      have _shorter := Call.length_parameters_lt member parameters
      recordsAs keep pattern group
termination_by stream.length

theorem recordsAs_eq {Kept : Type} (keep : Call → Kept) (pattern : Pattern) (stream : List Token) :
    recordsAs keep pattern stream = (calls pattern stream).flatMap fun call =>
      call.recordsAs keep fun group _ => recordsAs keep pattern group := by
  have resolved (call : Call) (member : call ∈ calls pattern stream) :
      (call.recordsAs keep fun group parameters =>
        have _shorter := Call.length_parameters_lt member parameters
        recordsAs keep pattern group) =
          call.recordsAs keep fun group _ => recordsAs keep pattern group := rfl
  rw [recordsAs, List.flatMap_subtype resolved, List.unattach_attach]

/-- **What is kept of skipped calls does not influence the records otherwise.** -/
theorem map_recordsAs {Kept Shown : Type} (change : Kept → Shown) (keep : Call → Kept)
    (pattern : Pattern) (stream : List Token) :
    (recordsAs keep pattern stream).map (Record.map change) =
      recordsAs (change ∘ keep) pattern stream := by
  rw [recordsAs_eq, recordsAs_eq, List.map_flatMap]
  apply List.flatMap_congr
  intro call member
  rcases call.unreadable_or_message with unreadable | ⟨id, category, parameters, reads⟩
  · rw [Call.recordsAs_of_unreadable unreadable, Call.recordsAs_of_unreadable unreadable]
    rfl
  · cases parameters with
    | none =>
      rw [Call.recordsAs_of_message reads, Call.recordsAs_of_message reads]
      rfl
    | some group =>
      have shorter := Call.length_parameters_lt member ⟨id, category, reads⟩
      rw [Call.recordsAs_of_parameters reads, Call.recordsAs_of_parameters reads, List.map_cons,
        map_recordsAs change keep pattern group]
      rfl
termination_by stream.length

/-- The records of a stream, with skipped calls as they are shown to a reader. -/
def records (pattern : Pattern) (stream : List Token) : List (Record SkippedCall) :=
  recordsAs Call.toSkipped pattern stream

theorem records_eq (pattern : Pattern) (stream : List Token) :
    records pattern stream = (calls pattern stream).flatMap fun call =>
      call.recordsAs Call.toSkipped fun group _ => records pattern group :=
  recordsAs_eq Call.toSkipped pattern stream

/-! ### The scan as its records -/

/-- The extraction that records amount to. -/
def Extraction.ofRecords (defaultCategory : String) (records : List (Record SkippedCall)) :
    Extraction where
  catalogue := Catalogue.group (records.filterMap (Record.message? defaultCategory))
  skipped := records.filterMap Record.skipped?

/-- The outcome of a call holds what its records hold, once both are grouped, if the same is true of
its parameters. -/
theorem Call.value_resolve {defaultCategory : String} {call : Call}
    {rescan : (group : List Token) → call.HasParameters group → Logged Extraction}
    {nested : (group : List Token) → call.HasParameters group → List (Record SkippedCall)}
    (agree : ∀ group parameters,
      (rescan group parameters).value = Extraction.ofRecords defaultCategory (nested group parameters)) :
    Catalogue.group (call.resolve defaultCategory rescan).value.messages =
        Catalogue.group ((call.recordsAs toSkipped nested).filterMap (Record.message? defaultCategory)) ∧
      (call.resolve defaultCategory rescan).value.skips =
        (call.recordsAs toSkipped nested).filterMap Record.skipped? := by
  rcases call.unreadable_or_message with unreadable | ⟨id, category, parameters, reads⟩
  · rw [resolve_of_unreadable unreadable, recordsAs_of_unreadable unreadable]
    exact ⟨rfl, rfl⟩
  · cases parameters with
    | none =>
      rw [resolve_of_message reads, recordsAs_of_message reads]
      exact ⟨rfl, rfl⟩
    | some group =>
      rw [resolve_of_parameters reads, recordsAs_of_parameters reads, Logged.value_bind,
        agree group ⟨id, category, reads⟩]
      refine ⟨?_, rfl⟩
      -- The nested group is taken apart and grouped again behind the call's own message.
      exact Catalogue.group_append_toMessages [_] _

/-- **A scan is the group of its records.** -/
theorem value_scan_eq_ofRecords (pattern : Pattern) (defaultCategory : String) (stream : List Token) :
    (scan pattern defaultCategory stream).value =
      Extraction.ofRecords defaultCategory (records pattern stream) := by
  have resolved (call : Call) (member : call ∈ calls pattern stream) :
      Catalogue.group (call.resolve defaultCategory fun group _ =>
          scan pattern defaultCategory group).value.messages =
        Catalogue.group ((call.recordsAs Call.toSkipped fun group _ =>
          records pattern group).filterMap (Record.message? defaultCategory)) ∧
      (call.resolve defaultCategory fun group _ =>
          scan pattern defaultCategory group).value.skips =
        (call.recordsAs Call.toSkipped fun group _ =>
          records pattern group).filterMap Record.skipped? := by
    apply Call.value_resolve
    intro group parameters
    have shorter := Call.length_parameters_lt member parameters
    exact value_scan_eq_ofRecords pattern defaultCategory group
  rw [scan_eq, Logged.value_bind, Logged.value_pure, Logged.value_mapM, Extraction.ofOutcomes_eq,
    List.flatMap_map, List.flatMap_map, Extraction.ofLists, Extraction.ofRecords, records_eq,
    List.filterMap_flatMap, List.filterMap_flatMap]
  rw [Catalogue.group_flatMap_congr fun call member => (resolved call member).1,
    List.flatMap_congr fun call member => (resolved call member).2]
termination_by stream.length

/-- The messages of records are as many as the records that have one, whatever the default category.
-/
theorem length_filterMap_message? {Kept : Type} (defaultCategory : String)
    (records : List (Record Kept)) :
    (records.filterMap (Record.message? defaultCategory)).length = records.countP Record.isMessage := by
  rw [List.length_filterMap_eq_countP]
  congr 1
  funext record
  cases record <;> rfl

/-- **A scan files its records.** It skips what they skip, in their order. Its catalogue has the
categories of their messages in the order in which they first appear, each with its ids in order. It
has as many messages as they have, and only where a record names no category does the default enter.
-/
theorem scan_groups_records (pattern : Pattern) (defaultCategory : String) (stream : List Token) :
    (scan pattern defaultCategory stream).value.skipped =
        (records pattern stream).filterMap Record.skipped? ∧
      (scan pattern defaultCategory stream).value.catalogue =
        Catalogue.group ((records pattern stream).filterMap (Record.message? defaultCategory)) ∧
      (scan pattern defaultCategory stream).value.catalogue.messageCount =
        (records pattern stream).countP Record.isMessage := by
  rw [value_scan_eq_ofRecords]
  refine ⟨rfl, rfl, ?_⟩
  show (Catalogue.group _).messageCount = _
  rw [Catalogue.messageCount_group, length_filterMap_message?]

-- The second call names its category, the third has a variable for its message, and the variable in
-- the third place of the first one names no category.
example :
    records arrowTranslate
        (arrowTranslateAt 1 ++ [Token.openParen, .lexeme Kind.string "'a'" 1, Token.comma,
          .punctuation "["] ++
        arrowTranslateAt 2 ++ [Token.openParen, .lexeme Kind.string "'b'" 2, Token.comma,
          .lexeme Kind.integer "0" 2, Token.comma, .lexeme Kind.string "'web'" 2, Token.closeParen,
          Token.comma] ++
        arrowTranslateAt 3 ++ [Token.openParen, .lexeme Kind.variableName "$x" 3, Token.closeParen,
          .punctuation "]", Token.comma, .lexeme Kind.variableName "$y" 3, Token.closeParen] ++
        arrowTranslateAt 4 ++ [Token.openParen, .lexeme Kind.string "'c'" 4, Token.closeParen]) =
      [.message none "a", .message (some "web") "b", .skip ⟨some 3, "->translate($x)"⟩,
        .message none "c"] := by
  decide +kernel

end MessageHarvest
