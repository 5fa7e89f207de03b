/-
**Scanning a stream.**

A scan resolves every outermost call of a stream in order. A call that cannot be read is skipped
with a notice. Any other call yields its message, under its own category or the default one; its
parameters are then scanned as a stream of their own, and what is found there is added after the
message.

* `scan` — the extraction of a stream, with the notices given on the way.
* `scan_eq` — the scan as one pass over the calls of the stream.
-/

import MessageHarvest.Call
import MessageHarvest.Extraction

namespace MessageHarvest

/-- Skips a call with a notice. -/
def Call.skip (call : Call) : Logged Outcome := do
  Logged.notify (.skipping call.toSkipped)
  return .skipped call.toSkipped

/-- The outcome of a call with a message whose parameters have yielded an extraction. -/
def Outcome.ofMessage (message : Message) (nested : Extraction) : Outcome :=
  .extracted (message :: nested.catalogue.toMessages) nested.skipped

/-- The outcome of a call, given how its parameters are scanned. -/
def Call.resolve (defaultCategory : String) (call : Call)
    (rescan : (group : List Token) → call.HasParameters group → Logged Extraction) :
    Logged Outcome :=
  match reads : call.read with
  | .unclosed => call.skip
  | .unbalanced => call.skip
  | .notLiteral => call.skip
  | .message id category none =>
    return .ofMessage { category := category.getD defaultCategory, id } Extraction.empty
  | .message id category (some group) =>
    return .ofMessage { category := category.getD defaultCategory, id }
      (← rescan group ⟨id, category, reads⟩)

/-- The messages of all translator calls of a stream by category, and the calls that were skipped.
-/
def scan (pattern : Pattern) (defaultCategory : String) (stream : List Token) :
    Logged Extraction := do
  let outcomes ← (calls pattern stream).attach.mapM fun ⟨call, member⟩ =>
    call.resolve defaultCategory fun group parameters =>
      have _shorter := Call.length_parameters_lt member parameters
      scan pattern defaultCategory group
  return Extraction.ofOutcomes outcomes
termination_by stream.length

/-- **The scan is one pass over the calls of the stream**, whose parameters are scanned in turn. -/
theorem scan_eq (pattern : Pattern) (defaultCategory : String) (stream : List Token) :
    scan pattern defaultCategory stream = (do
      let outcomes ← (calls pattern stream).mapM fun call =>
        call.resolve defaultCategory fun group _ => scan pattern defaultCategory group
      return Extraction.ofOutcomes outcomes) := by
  have resolved (call : Call) (member : call ∈ calls pattern stream) :
      (call.resolve defaultCategory fun group parameters =>
        have _shorter := Call.length_parameters_lt member parameters
        scan pattern defaultCategory group) =
      call.resolve defaultCategory fun group _ => scan pattern defaultCategory group := rfl
  rw [scan, List.mapM_subtype resolved, List.unattach_attach]

end MessageHarvest
