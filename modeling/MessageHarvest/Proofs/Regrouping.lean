/-
**Filling an extraction.**

An extraction is filled in two ways: by single messages and by the outcomes of calls, in any order.
Whatever was added, it shows the messages by category and the skipped calls as they came. Messages
that were collected elsewhere first, and are handed over category by category, arrive in another
order than the one in which they were found, and yet the extraction is the same.

* `Addition` — a message or an outcome that is added to an extraction.
* `Extraction.Collects` — what an extraction shows of the messages and the skipped calls it holds.
* `Extraction.addAll_ofLists` — an extraction groups all that is added to it.
* `additions_are_regrouped` — what it shows after any additions, and what regrouping does to more.
-/

import MessageHarvest.Proofs.Grouping

namespace MessageHarvest

/-! ### Additions -/

/-- What is added to an extraction: a single message or the outcome of a call. -/
inductive Addition where
  | message (added : Message)
  | outcome (added : Outcome)
deriving DecidableEq, Repr

namespace Addition

/-- The messages of an addition. -/
def messages : Addition → List Message
  | message added => [added]
  | outcome added => added.messages

/-- The skipped calls of an addition. -/
def skips : Addition → List SkippedCall
  | message _ => []
  | outcome added => added.skips

end Addition

namespace Extraction

/-- The extraction with one more addition. -/
def add (extraction : Extraction) : Addition → Extraction
  | .message added => extraction.addMessage added
  | .outcome added => extraction.addOutcome added

/-- The extraction with more additions, in order. -/
def addAll (extraction : Extraction) (additions : List Addition) : Extraction :=
  additions.foldl add extraction

/-- The extraction with more messages, each added by itself. -/
def addMessages (extraction : Extraction) (messages : List Message) : Extraction :=
  extraction.addAll (messages.map .message)

/-- One addition goes behind what is there. -/
theorem add_ofLists (messages : List Message) (skipped : List SkippedCall) (addition : Addition) :
    (ofLists messages skipped).add addition =
      ofLists (messages ++ addition.messages) (skipped ++ addition.skips) := by
  cases addition with
  | message added =>
    show (ofLists messages skipped).addMessage added = ofLists (messages ++ [added]) (skipped ++ [])
    unfold addMessage ofLists
    rw [Catalogue.add_group, List.append_nil]
  | outcome added => exact addOutcome_ofLists messages skipped added

/-- **An extraction groups all that is added to it**, and keeps the skipped calls in order. -/
theorem addAll_ofLists (messages : List Message) (skipped : List SkippedCall)
    (additions : List Addition) :
    (ofLists messages skipped).addAll additions =
      ofLists (messages ++ additions.flatMap Addition.messages)
        (skipped ++ additions.flatMap Addition.skips) :=
  foldl_ofLists add_ofLists additions messages skipped

theorem addMessages_ofLists (messages found : List Message) (skipped : List SkippedCall) :
    (ofLists messages skipped).addMessages found = ofLists (messages ++ found) skipped := by
  have own : (found.map Addition.message).flatMap Addition.messages = found := by
    rw [List.flatMap_map]
    exact List.flatMap_singleton' found
  have quiet : (found.map Addition.message).flatMap Addition.skips = [] := by
    rw [List.flatMap_map]
    exact List.flatMap_eq_nil_iff.mpr fun _ _ => rfl
  rw [addMessages, addAll_ofLists, own, quiet, List.append_nil]

/-! ### What an extraction shows -/

/-- The extraction shows messages and skipped calls: each category once, in the order in which the
messages name them first; under each its ids, at least one, in their order; as many messages as
there are; and the skipped calls in order. -/
structure Collects (extraction : Extraction) (messages : List Message)
    (skipped : List SkippedCall) : Prop where
  distinct : extraction.catalogue.categories.Nodup
  first_appearance : extraction.catalogue.categories = Catalogue.categoriesOf messages
  filled : ∀ entry ∈ extraction.catalogue.entries, entry.2 ≠ []
  in_order : ∀ entry ∈ extraction.catalogue.entries, entry.2 = Catalogue.idsOf entry.1 messages
  counted : extraction.catalogue.messageCount = messages.length
  skipped_eq : extraction.skipped = skipped

theorem collects_ofLists (messages : List Message) (skipped : List SkippedCall) :
    (ofLists messages skipped).Collects messages skipped := by
  have listed (entry : String × List String)
      (member : entry ∈ (Catalogue.group messages).entries) :
      entry.1 ∈ Catalogue.categoriesOf messages ∧ entry.2 = Catalogue.idsOf entry.1 messages := by
    obtain ⟨category, appears, rfl⟩ := List.mem_map.mp member
    exact ⟨appears, rfl⟩
  refine ⟨?_, Catalogue.categories_group messages, ?_, fun entry member => (listed entry member).2,
    Catalogue.messageCount_group messages, rfl⟩
  · show (Catalogue.group messages).categories.Nodup
    rw [Catalogue.categories_group]
    exact Catalogue.nodup_eraseDups _
  · intro entry member
    obtain ⟨appears, ids⟩ := listed entry member
    rw [ids]
    exact fun none => Catalogue.idsOf_eq_nil_iff.mp none appears

/-- Messages behind others may be collected by themselves first and handed over by category. -/
theorem ofLists_append_toMessages (messages found : List Message) (skipped : List SkippedCall) :
    ofLists (messages ++ (empty.addMessages found).catalogue.toMessages) skipped =
      ofLists (messages ++ found) skipped := by
  have collected : empty.addMessages found = ofLists found [] := addMessages_ofLists [] found []
  rw [collected]
  unfold ofLists
  rw [Catalogue.group_append_toMessages]

end Extraction

/-- **An extraction shows what was added to it, and regrouping does not show.** After any additions
its categories are distinct and stand in the order of their first messages, each has its ids in
order, every message is counted, and the skipped calls stand in order. More messages may be added
directly, one by one or as the outcome of a call; or they may be collected by an extraction of their
own first, whose messages are then added category by category: the extraction is the same. -/
theorem additions_are_regrouped (additions : List Addition) :
    (Extraction.empty.addAll additions).Collects
      (additions.flatMap Addition.messages) (additions.flatMap Addition.skips) ∧
    ∀ messages : List Message,
      (Extraction.empty.addAll additions).addMessages messages =
        (Extraction.empty.addAll additions).addMessages
          (Extraction.empty.addMessages messages).catalogue.toMessages ∧
      ∀ skipped, (Extraction.empty.addAll additions).addOutcome (.extracted messages skipped) =
        (Extraction.empty.addAll additions).addOutcome
          (.extracted (Extraction.empty.addMessages messages).catalogue.toMessages skipped) := by
  have filed : Extraction.empty.addAll additions = Extraction.ofLists
      (additions.flatMap Addition.messages) (additions.flatMap Addition.skips) :=
    Extraction.addAll_ofLists [] [] additions
  rw [filed]
  refine ⟨Extraction.collects_ofLists _ _, fun messages => ⟨?_, fun skipped => ?_⟩⟩
  · rw [Extraction.addMessages_ofLists, Extraction.addMessages_ofLists,
      Extraction.ofLists_append_toMessages]
  · rw [Extraction.addOutcome_ofLists, Extraction.addOutcome_ofLists]
    exact (Extraction.ofLists_append_toMessages _ messages _).symm

end MessageHarvest
