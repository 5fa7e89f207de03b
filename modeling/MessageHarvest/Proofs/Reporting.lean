/-
**What the log says.**

A call is reported at the moment it is skipped, deep inside the parameters of other calls and before
anything is merged; the list of skipped calls is put together later, from the inside out. Both come
to the same list, because a skipped call is not scanned again and outcomes are merged in the order
of the calls.

* `Call.log_resolve` — a call reports what its outcome skips, if its parameters do.
* `log_scan` — a scan reports what it skips.
* `log_tells_skipped_calls` — the lines of the log, for a scan and for an extractor.
-/

import MessageHarvest.Extractor
import MessageHarvest.Proofs.Records

namespace MessageHarvest

/-! ### Wording -/

/-- The lines that a reader of the log sees. -/
def Logged.lines {α : Type} (logged : Logged α) : List String :=
  logged.log.map Notice.text

/-- The line for a call that is skipped. -/
def SkippedCall.report (call : SkippedCall) : String :=
  "Skipping translator call at line " ++ call.lineText ++ ": " ++ call.source

/-- The line for a whole extraction: how many messages it holds, in how many categories, and how many
calls it skips. -/
def Extraction.report (extraction : Extraction) : String :=
  "Extracted " ++ toString extraction.catalogue.toMessages.length ++ " messages in " ++
    toString extraction.catalogue.categories.length ++ " categories, skipped " ++
    toString extraction.skipped.length ++ " calls"

theorem Extraction.text_summary (extraction : Extraction) :
    extraction.summary.text = extraction.report := by
  have categories : extraction.catalogue.categoryCount = extraction.catalogue.categories.length :=
    (List.length_map _).symm
  rw [summary, Catalogue.messageCount_eq_length, categories]
  rfl

/-! ### Notices -/

/-- **A call reports what its outcome skips**, if the scan of its parameters does so. -/
theorem Call.log_resolve {defaultCategory : String} {call : Call}
    {rescan : (group : List Token) → call.HasParameters group → Logged Extraction}
    (reported : ∀ group parameters, (rescan group parameters).log =
      (rescan group parameters).value.skipped.map Notice.skipping) :
    (call.resolve defaultCategory rescan).log =
      (call.resolve defaultCategory rescan).value.skips.map Notice.skipping := by
  rcases call.unreadable_or_message with unreadable | ⟨id, category, parameters, reads⟩
  · rw [resolve_of_unreadable unreadable]
    rfl
  · cases parameters with
    | none =>
      rw [resolve_of_message reads]
      rfl
    | some group =>
      rw [resolve_of_parameters reads, Logged.log_bind, reported group ⟨id, category, reads⟩,
        Logged.log_pure, List.append_nil]
      rfl

/-- **A scan reports what it skips**, in the order of its list. -/
theorem log_scan (pattern : Pattern) (defaultCategory : String) (stream : List Token) :
    (scan pattern defaultCategory stream).log =
      (scan pattern defaultCategory stream).value.skipped.map Notice.skipping := by
  have resolved (call : Call) (member : call ∈ calls pattern stream) :
      (call.resolve defaultCategory fun group _ => scan pattern defaultCategory group).log =
        (call.resolve defaultCategory fun group _ =>
          scan pattern defaultCategory group).value.skips.map Notice.skipping := by
    apply Call.log_resolve
    intro group parameters
    have shorter := Call.length_parameters_lt member parameters
    exact log_scan pattern defaultCategory group
  rw [scan_eq, Logged.log_bind, Logged.log_mapM, Logged.log_pure, List.append_nil, Logged.value_bind,
    Logged.value_mapM, Logged.value_pure, Extraction.ofOutcomes_eq]
  show _ = (List.flatMap Outcome.skips _).map Notice.skipping
  rw [List.map_flatMap, List.flatMap_map]
  exact List.flatMap_congr resolved
termination_by stream.length

/-- Streams with the same records have the same scan, notices included. -/
theorem scan_eq_of_records_eq {first second : Pattern} (defaultCategory : String)
    {firstStream secondStream : List Token}
    (same : records first firstStream = records second secondStream) :
    scan first defaultCategory firstStream = scan second defaultCategory secondStream := by
  have value : (scan first defaultCategory firstStream).value =
      (scan second defaultCategory secondStream).value := by
    rw [value_scan_eq_ofRecords, value_scan_eq_ofRecords, same]
  have log : (scan first defaultCategory firstStream).log =
      (scan second defaultCategory secondStream).log := by
    rw [log_scan, log_scan, value]
  exact congrArg₂ Logged.mk value log

theorem lines_scan (pattern : Pattern) (defaultCategory : String) (stream : List Token) :
    (scan pattern defaultCategory stream).lines =
      (scan pattern defaultCategory stream).value.skipped.map SkippedCall.report := by
  rw [Logged.lines, log_scan, List.map_map]
  rfl

/-- An extraction closes with its summary. -/
theorem Extractor.log_answer_extraction {Other Problem Error : Type}
    (validator : Validator Other Problem) (extractor : Extractor Error) (tokens : List Token) :
    (extractor.answer validator (.extraction tokens)).log =
      (scan extractor.pattern extractor.config.defaultCategory tokens).log ++
        [(scan extractor.pattern extractor.config.defaultCategory tokens).value.summary] := by
  simp [answer, extract, Logged.notify]

end MessageHarvest
