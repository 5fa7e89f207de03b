/-
**Grouping messages by category.**

A catalogue is filled one message at a time, and the catalogue of a nested extraction is taken apart
again, category by category, before its messages are added to the enclosing one. None of that shows
in the end: what counts is which messages were added under each category, and in which order.

* `Catalogue.group` — the catalogue of a list of messages, said at once: the categories in order of
  first appearance, each with its ids in order.
* `Catalogue.addAll_group` — adding messages one by one gives the group of all of them.
* `Catalogue.group_append` — the group of two lists is the merge of their groups.
* `Catalogue.group_toMessages` — taking a group apart and grouping again changes nothing.
* `Extraction.ofOutcomes_eq` — an extraction is the group of its outcomes' messages.
-/

import Mathlib.Data.List.Induction
import Mathlib.Data.List.Perm.Basic
import MessageHarvest.Extraction

namespace MessageHarvest

namespace Catalogue

/-! ### Views of a catalogue -/

/-- The categories in order. -/
def categories (catalogue : Catalogue) : List String :=
  catalogue.entries.map Prod.fst

/-- The ids of a category. A category without an entry has none. -/
def ids (catalogue : Catalogue) (category : String) : List String :=
  (catalogue.entries.lookup category).getD []

/-- The ids of the second catalogue are put behind those of the first, category by category. A
category that is new comes after all those of the first catalogue. -/
def merge (first second : Catalogue) : Catalogue where
  entries :=
    (first.categories ++ second.categories.filter fun category => category ∉ first.categories).map
      fun category => (category, first.ids category ++ second.ids category)

/-! ### First appearances -/

/-- Dropping repetitions and dropping unwanted values do not interfere. -/
theorem eraseDups_filter (wanted : String → Bool) (values : List String) :
    (values.filter wanted).eraseDups = values.eraseDups.filter wanted := by
  match values with
  | [] => rfl
  | value :: rest =>
    have later := eraseDups_filter wanted (rest.filter fun other => !other == value)
    rw [List.eraseDups_cons, List.filter_cons, List.filter_cons, ← later]
    split
    · rw [List.eraseDups_cons, List.filter_filter, List.filter_filter]
      simp only [Bool.and_comm]
    · rename_i unwanted
      have same : (rest.filter fun other => !other == value).filter wanted = rest.filter wanted := by
        rw [List.filter_filter]
        apply List.filter_congr
        intro other _
        by_cases equal : other = value
        · simp [equal, unwanted]
        · simp [equal]
      rw [same]
termination_by values.length
decreasing_by exact Nat.lt_succ_of_le (List.length_filter_le _ _)

theorem nodup_eraseDups (values : List String) : values.eraseDups.Nodup := by
  induction values with
  | nil => exact List.nodup_nil
  | cons value rest ih =>
    rw [List.eraseDups_cons, eraseDups_filter, List.nodup_cons]
    refine ⟨?_, ih.filter _⟩
    simp

/-! ### The group of a list of messages -/

/-- The categories of messages in order of first appearance. -/
def categoriesOf (messages : List Message) : List String :=
  (messages.map Message.category).eraseDups

/-- The ids that messages have under a category, in order. -/
def idsOf (category : String) (messages : List Message) : List String :=
  (messages.filter fun message => message.category = category).map Message.id

/-- The messages by category, in order of first appearance. -/
def group (messages : List Message) : Catalogue where
  entries := (categoriesOf messages).map fun category => (category, idsOf category messages)

theorem mem_categoriesOf {category : String} {messages : List Message} :
    category ∈ categoriesOf messages ↔ ∃ message ∈ messages, message.category = category := by
  rw [categoriesOf, List.mem_eraseDups, List.mem_map]

theorem categoriesOf_append (first second : List Message) :
    categoriesOf (first ++ second) = categoriesOf first ++
      (categoriesOf second).filter fun category => category ∉ categoriesOf first := by
  simp only [categoriesOf, List.map_append, List.eraseDups_append, List.removeAll,
    eraseDups_filter, List.mem_eraseDups, List.elem_eq_mem, decide_not]

theorem idsOf_append (category : String) (first second : List Message) :
    idsOf category (first ++ second) = idsOf category first ++ idsOf category second := by
  rw [idsOf, List.filter_append, List.map_append, idsOf, idsOf]

/-- A category has no ids exactly if it does not appear. -/
theorem idsOf_eq_nil_iff {category : String} {messages : List Message} :
    idsOf category messages = [] ↔ category ∉ categoriesOf messages := by
  rw [mem_categoriesOf, idsOf, List.map_eq_nil_iff, List.filter_eq_nil_iff]
  simp

theorem categories_group (messages : List Message) :
    (group messages).categories = categoriesOf messages := by
  unfold categories group
  rw [List.map_map]
  exact List.map_id _

/-- Looking a key up in a table of a function's values. -/
theorem lookup_map_mk (values : String → List String) (key : String) (keys : List String) :
    (keys.map fun category => (category, values category)).lookup key =
      if key ∈ keys then some (values key) else none := by
  induction keys with
  | nil => rfl
  | cons head keys ih =>
    rw [List.map_cons, List.lookup_cons, ih]
    by_cases same : key = head
    · simp [same]
    · have differs : (key == head) = false := beq_false_of_ne same
      simp [same, differs]

theorem ids_group (messages : List Message) (category : String) :
    (group messages).ids category = idsOf category messages := by
  unfold ids group
  rw [lookup_map_mk]
  split
  · rfl
  · rename_i absent
    exact (idsOf_eq_nil_iff.mpr absent).symm

/-- **The group of two lists is the merge of their groups.** -/
theorem group_append (first second : List Message) :
    group (first ++ second) = (group first).merge (group second) := by
  rw [merge, categories_group, categories_group, group, categoriesOf_append]
  congr 1
  apply List.map_congr_left
  intro category _
  rw [ids_group, ids_group, idsOf_append]

/-- More messages add their categories behind those that are there. -/
theorem categories_group_prefix {first whole : List Message} (begins : first <+: whole) :
    (group first).categories <+: (group whole).categories := by
  obtain ⟨rest, rfl⟩ := begins
  rw [categories_group, categories_group, categoriesOf_append]
  exact List.prefix_append _ _

/-- More messages add their ids behind those that are there, category by category. -/
theorem ids_group_prefix {first whole : List Message} (begins : first <+: whole)
    (category : String) : (group first).ids category <+: (group whole).ids category := by
  obtain ⟨rest, rfl⟩ := begins
  rw [ids_group, ids_group, idsOf_append]
  exact List.prefix_append _ _

/-- Lists with the same groups may stand for each other under a pass over any list. -/
theorem group_flatMap_congr {α : Type} {first second : α → List Message} {items : List α}
    (same : ∀ item ∈ items, group (first item) = group (second item)) :
    group (items.flatMap first) = group (items.flatMap second) := by
  induction items with
  | nil => rfl
  | cons item items ih =>
    rw [List.flatMap_cons, List.flatMap_cons, group_append, group_append,
      same item List.mem_cons_self, ih fun other member => same other (List.mem_cons_of_mem _ member)]

/-! ### Adding messages one by one -/

theorem idsOf_singleton (category : String) (message : Message) :
    idsOf category [message] = if message.category = category then [message.id] else [] := by
  by_cases same : message.category = category
  · simp [idsOf, same]
  · simp [idsOf, same]

/-- A message goes to the entry of its category, or to a new entry behind the others. -/
theorem addToEntries_map_mk (message : Message) (values : String → List String) {keys : List String}
    (distinct : keys.Nodup) (absent : message.category ∉ keys → values message.category = []) :
    addToEntries message (keys.map fun category => (category, values category)) =
      (keys ++ [message.category].filter fun category => category ∉ keys).map
        fun category => (category, values category ++ idsOf category [message]) := by
  induction keys with
  | nil => simp [addToEntries, idsOf_singleton, absent]
  | cons head keys ih =>
    obtain ⟨fresh, distinct⟩ := List.nodup_cons.mp distinct
    rw [List.map_cons, addToEntries]
    by_cases same : head = message.category
    · subst same
      have unchanged : ∀ category ∈ keys,
          (category, values category) = (category, values category ++ idsOf category [message]) := by
        intro category member
        have differs : message.category ≠ category := fun equal => fresh (equal ▸ member)
        rw [idsOf_singleton, if_neg differs, List.append_nil]
      rw [if_pos rfl, List.map_congr_left unchanged]
      simp [idsOf_singleton]
    · have known : (message.category ∉ head :: keys) ↔ message.category ∉ keys := by
        simp [Ne.symm same]
      rw [if_neg same, ih distinct fun missing => absent (known.mpr missing)]
      simp [idsOf_singleton, Ne.symm same, List.filter_singleton]

theorem add_group (messages : List Message) (message : Message) :
    (group messages).add message = group (messages ++ [message]) := by
  have single : categoriesOf [message] = [message.category] := rfl
  have added := addToEntries_map_mk message (fun category => idsOf category messages)
    (nodup_eraseDups (messages.map Message.category)) idsOf_eq_nil_iff.mpr
  have joined : (fun category => (category, idsOf category (messages ++ [message]))) =
      fun category => (category, idsOf category messages ++ idsOf category [message]) :=
    funext fun category => by rw [idsOf_append]
  rw [group.eq_def (messages ++ [message]), categoriesOf_append, single, joined]
  exact congrArg Catalogue.mk added

/-- **Adding messages one by one** to a group gives the group of all of them. -/
theorem addAll_group (first second : List Message) :
    (group first).addAll second = group (first ++ second) := by
  induction second generalizing first with
  | nil => rw [List.append_nil]; rfl
  | cons message second ih =>
    have step : (group first).addAll (message :: second) =
        ((group first).add message).addAll second := rfl
    rw [step, add_group, ih, List.append_assoc, List.singleton_append]

/-! ### Taking a catalogue apart -/

theorem toMessages_cons (category : String) (ids : List String)
    (rest : List (String × List String)) :
    toMessages ⟨(category, ids) :: rest⟩ =
      ids.map (Message.mk category) ++ toMessages ⟨rest⟩ :=
  List.flatMap_cons

theorem messageCount_eq_length (catalogue : Catalogue) :
    catalogue.messageCount = catalogue.toMessages.length := by
  obtain ⟨entries⟩ := catalogue
  induction entries with
  | nil => rfl
  | cons entry rest ih =>
    rw [toMessages_cons, List.length_append, List.length_map, ← ih]
    rfl

theorem toMessages_add_perm (catalogue : Catalogue) (message : Message) :
    (catalogue.add message).toMessages.Perm (catalogue.toMessages ++ [message]) := by
  obtain ⟨entries⟩ := catalogue
  induction entries with
  | nil => exact List.Perm.refl _
  | cons entry rest ih =>
    obtain ⟨category, ids⟩ := entry
    simp only [add, addToEntries]
    split
    · rename_i same
      rw [toMessages_cons, toMessages_cons, List.map_append, List.append_assoc, List.append_assoc]
      refine List.Perm.append_left _ ?_
      subst same
      exact List.perm_append_comm
    · rw [toMessages_cons, toMessages_cons, List.append_assoc]
      exact List.Perm.append_left _ ih

/-- The messages of a group are those that were grouped, in another order. -/
theorem toMessages_group_perm (messages : List Message) :
    (group messages).toMessages.Perm messages := by
  induction messages using List.reverseRecOn with
  | nil => exact List.Perm.refl _
  | append_singleton messages message ih =>
    rw [← add_group]
    exact (toMessages_add_perm _ _).trans (ih.append_right _)

/-- Every message is counted once. -/
theorem messageCount_group (messages : List Message) :
    (group messages).messageCount = messages.length := by
  rw [messageCount_eq_length, (toMessages_group_perm messages).length_eq]

/-- The messages of one category make one entry. -/
theorem group_map_mk (category : String) {ids : List String} (nonempty : ids ≠ []) :
    group (ids.map (Message.mk category)) = ⟨[(category, ids)]⟩ := by
  have names : categoriesOf (ids.map (Message.mk category)) = [category] := by
    obtain ⟨id, others, rfl⟩ := List.exists_cons_of_ne_nil nonempty
    simp [categoriesOf, List.eraseDups_cons, Function.comp_def]
  have own : idsOf category (ids.map (Message.mk category)) = ids := by
    rw [idsOf, List.filter_eq_self.mpr, List.map_map]
    · exact List.map_id _
    · simp
  rw [group, names, List.map_singleton, own]

/-- An entry of a category that a table does not hold is put before the table. -/
theorem merge_map_mk (values : String → List String) {head : String} {keys : List String}
    (fresh : head ∉ keys) :
    merge ⟨[(head, values head)]⟩ ⟨keys.map fun category => (category, values category)⟩ =
      ⟨(head :: keys).map fun category => (category, values category)⟩ := by
  have kept : (keys.filter fun category => category ∉ [head]) = keys := by
    apply List.filter_eq_self.mpr
    intro category member
    simpa using fun equal : category = head => fresh (equal ▸ member)
  have names : categories ⟨keys.map fun category => (category, values category)⟩ = keys := by
    rw [categories, List.map_map]
    exact List.map_id _
  have first : categories ⟨[(head, values head)]⟩ = [head] := rfl
  rw [merge, names, first, kept]
  congr 1
  apply List.map_congr_left
  intro category member
  simp only [ids, lookup_map_mk, List.lookup_cons, List.lookup_nil]
  rcases List.mem_cons.mp member with rfl | inside
  · simp [fresh]
  · replace inside : category ∈ keys := inside
    have differs : (category == head) = false := beq_false_of_ne fun equal => fresh (equal ▸ inside)
    simp [differs, inside]

theorem group_toMessages_map_mk (values : String → List String) {keys : List String}
    (distinct : keys.Nodup) (filled : ∀ category ∈ keys, values category ≠ []) :
    group (toMessages ⟨keys.map fun category => (category, values category)⟩) =
      ⟨keys.map fun category => (category, values category)⟩ := by
  induction keys with
  | nil => rfl
  | cons head keys ih =>
    obtain ⟨fresh, distinct⟩ := List.nodup_cons.mp distinct
    rw [List.map_cons, toMessages_cons, group_append,
      group_map_mk head (filled head List.mem_cons_self),
      ih distinct fun category member => filled category (List.mem_cons_of_mem _ member),
      merge_map_mk values fresh, List.map_cons]

/-- **Taking a group apart**, category by category, and grouping again changes nothing. -/
theorem group_toMessages (messages : List Message) :
    group (group messages).toMessages = group messages := by
  apply group_toMessages_map_mk (fun category => idsOf category messages) (nodup_eraseDups _)
  intro category member none
  exact idsOf_eq_nil_iff.mp none member

/-- Messages behind others may be grouped and taken apart before. -/
theorem group_append_toMessages (first second : List Message) :
    group (first ++ (group second).toMessages) = group (first ++ second) := by
  rw [group_append, group_toMessages, ← group_append]

end Catalogue

/-! ### Extractions -/

namespace Outcome

/-- The messages of an outcome. -/
def messages : Outcome → List Message
  | skipped _ => []
  | extracted messages _ => messages

/-- The skipped calls of an outcome. -/
def skips : Outcome → List SkippedCall
  | skipped call => [call]
  | extracted _ others => others

end Outcome

namespace Extraction

/-- What the second extraction holds is put behind what the first one holds. -/
def merge (first second : Extraction) : Extraction where
  catalogue := first.catalogue.merge second.catalogue
  skipped := first.skipped ++ second.skipped

/-- The extraction of a list of messages and a list of skipped calls. -/
def ofLists (messages : List Message) (skipped : List SkippedCall) : Extraction where
  catalogue := Catalogue.group messages
  skipped := skipped

theorem merge_ofLists (firstMessages secondMessages : List Message)
    (firstSkipped secondSkipped : List SkippedCall) :
    (ofLists firstMessages firstSkipped).merge (ofLists secondMessages secondSkipped) =
      ofLists (firstMessages ++ secondMessages) (firstSkipped ++ secondSkipped) := by
  rw [merge, ofLists, ofLists, ofLists, Catalogue.group_append]

theorem addOutcome_ofLists (messages : List Message) (skipped : List SkippedCall)
    (outcome : Outcome) :
    (ofLists messages skipped).addOutcome outcome =
      ofLists (messages ++ outcome.messages) (skipped ++ outcome.skips) := by
  cases outcome with
  | skipped call =>
    simp [addOutcome, ofLists, Outcome.messages, Outcome.skips]
  | extracted found others =>
    simp [addOutcome, ofLists, Outcome.messages, Outcome.skips, Catalogue.addAll_group]

/-- What each step adds to the lists of an extraction is added in order by a run of steps. -/
theorem foldl_ofLists {α : Type} {step : Extraction → α → Extraction}
    {found : α → List Message} {skips : α → List SkippedCall}
    (adds : ∀ messages skipped item, step (ofLists messages skipped) item =
      ofLists (messages ++ found item) (skipped ++ skips item))
    (items : List α) (messages : List Message) (skipped : List SkippedCall) :
    items.foldl step (ofLists messages skipped) =
      ofLists (messages ++ items.flatMap found) (skipped ++ items.flatMap skips) := by
  induction items generalizing messages skipped with
  | nil => simp
  | cons item items ih =>
    rw [List.foldl_cons, adds, ih]
    simp

/-- **An extraction is the group of its outcomes' messages**, with their skipped calls in order. -/
theorem ofOutcomes_eq (outcomes : List Outcome) :
    ofOutcomes outcomes =
      ofLists (outcomes.flatMap Outcome.messages) (outcomes.flatMap Outcome.skips) :=
  foldl_ofLists addOutcome_ofLists outcomes [] []

/-- Outcomes before, of and behind a call may be merged in that order. -/
theorem ofOutcomes_append_cons (first : List Outcome) (outcome : Outcome) (last : List Outcome) :
    ofOutcomes (first ++ outcome :: last) =
      ((ofOutcomes first).addOutcome outcome).merge (ofOutcomes last) := by
  rw [ofOutcomes_eq, ofOutcomes_eq, ofOutcomes_eq, addOutcome_ofLists, merge_ofLists]
  simp

end Extraction

end MessageHarvest
