/-
**The catalogue of messages.**

Messages are collected by category. Categories stand in the order in which each first got a message,
and the ids of a category in the order in which they were added; an id that occurs twice is kept
twice.
-/

namespace MessageHarvest

/-- The id of a message under its category. -/
structure Message where
  category : String
  id : String
deriving DecidableEq, Repr

/-- Message ids by category, in order of first appearance. -/
structure Catalogue where
  entries : List (String × List String)
deriving DecidableEq, Repr

namespace Catalogue

/-- No category and no message. -/
def empty : Catalogue where
  entries := []

/-- Adds an id to the entry of its category, or a new entry at the end. -/
def addToEntries (message : Message) : List (String × List String) → List (String × List String)
  | [] => [(message.category, [message.id])]
  | (category, ids) :: rest =>
    if category = message.category then
      (category, ids ++ [message.id]) :: rest
    else
      (category, ids) :: addToEntries message rest

/-- The catalogue with one more message. -/
def add (catalogue : Catalogue) (message : Message) : Catalogue where
  entries := addToEntries message catalogue.entries

/-- The catalogue with more messages, in order. -/
def addAll (catalogue : Catalogue) (messages : List Message) : Catalogue :=
  messages.foldl add catalogue

/-- All messages, category by category. -/
def toMessages (catalogue : Catalogue) : List Message :=
  catalogue.entries.flatMap fun entry => entry.2.map fun id => { category := entry.1, id }

/-- The number of categories. -/
def categoryCount (catalogue : Catalogue) : Nat :=
  catalogue.entries.length

/-- The number of messages in all categories together. -/
def messageCount (catalogue : Catalogue) : Nat :=
  catalogue.entries.foldr (fun entry count => entry.2.length + count) 0

end Catalogue

end MessageHarvest
