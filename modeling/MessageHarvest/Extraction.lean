/-
**What an extraction yields.**

Each translator call of a stream has an outcome: it is skipped, or it yields its own message
followed by the messages and the skipped calls of its parameters. An extraction is the catalogue of
all messages and the list of all skipped calls, merged outcome by outcome.
-/

import MessageHarvest.Catalogue
import MessageHarvest.Notice

namespace MessageHarvest

/-- What comes of one translator call. -/
inductive Outcome where
  | skipped (call : SkippedCall)
  | extracted (messages : List Message) (skipped : List SkippedCall)
deriving DecidableEq, Repr

/-- The messages and the skipped calls of a stream. -/
structure Extraction where
  catalogue : Catalogue
  skipped : List SkippedCall
deriving DecidableEq, Repr

namespace Extraction

/-- No message and no skipped call. -/
def empty : Extraction where
  catalogue := Catalogue.empty
  skipped := []

/-- The extraction with one more message. -/
def addMessage (extraction : Extraction) (message : Message) : Extraction :=
  { extraction with catalogue := extraction.catalogue.add message }

/-- The extraction with the outcome of one more call. -/
def addOutcome (extraction : Extraction) : Outcome → Extraction
  | .skipped call => { extraction with skipped := extraction.skipped ++ [call] }
  | .extracted messages skipped =>
    { catalogue := extraction.catalogue.addAll messages
      skipped := extraction.skipped ++ skipped }

/-- The extraction of calls with the given outcomes, in order. -/
def ofOutcomes (outcomes : List Outcome) : Extraction :=
  outcomes.foldl addOutcome empty

/-- Some call was skipped. -/
def hasSkipped (extraction : Extraction) : Bool :=
  !extraction.skipped.isEmpty

/-- The notice that closes an extraction. -/
def summary (extraction : Extraction) : Notice :=
  .summary extraction.catalogue.messageCount extraction.catalogue.categoryCount
    extraction.skipped.length

end Extraction

end MessageHarvest
