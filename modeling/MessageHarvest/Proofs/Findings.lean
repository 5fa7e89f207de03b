/-
**The calls behind the records.**

A record usually keeps of a skipped call only what is shown to a reader. A finding is a record that
keeps the call itself, so that one can say which tokens it is made of.

* `findings` — the findings of a stream, in the order of its records.
* `records_eq_map_findings` — the records are what the findings show.
* `skipped_scan_eq` — the calls that a scan skips.
* `infix_of_mem_skippedCalls` — the tokens of a skipped call stand together in the stream.
-/

import MessageHarvest.Proofs.CallSites

namespace MessageHarvest

/-! ### The findings of a stream -/

/-- The records of a stream, with the skipped calls themselves. -/
def findings (pattern : Pattern) (stream : List Token) : List (Record Call) :=
  recordsAs id pattern stream

theorem findings_eq (pattern : Pattern) (stream : List Token) :
    findings pattern stream = (calls pattern stream).flatMap fun call =>
      call.recordsAs id fun group _ => findings pattern group :=
  recordsAs_eq id pattern stream

/-- **The records of a stream are what its findings show.** -/
theorem records_eq_map_findings (pattern : Pattern) (stream : List Token) :
    records pattern stream = (findings pattern stream).map (Record.map Call.toSkipped) :=
  (map_recordsAs Call.toSkipped id pattern stream).symm

/-! ### Skipped calls -/

/-- The calls that are skipped in a stream and in the parameters of its calls, in order. -/
def skippedCalls (pattern : Pattern) (stream : List Token) : List Call :=
  (findings pattern stream).filterMap Record.skipped?

/-- **A scan reports the calls that it skips**, in order. -/
theorem skipped_scan_eq (pattern : Pattern) (defaultCategory : String) (stream : List Token) :
    (scan pattern defaultCategory stream).value.skipped =
      (skippedCalls pattern stream).map Call.toSkipped := by
  rw [value_scan_eq_ofRecords]
  show (records pattern stream).filterMap Record.skipped? = _
  rw [records_eq_map_findings, Record.filterMap_skipped?_map, skippedCalls]

/-- The tokens of a call stand together in the stream. -/
theorem Call.infix_of_mem_calls {pattern : Pattern} {stream : List Token} {call : Call}
    (member : call ∈ calls pattern stream) : call.tokens <:+: stream := by
  rcases mem_calls_cases member with ⟨before, lead, arguments, split, _, _, rfl⟩ |
    ⟨before, lead, arguments, rest, split, _, _, rfl⟩
  · refine ⟨before, [], ?_⟩
    rw [split]
    simp [tokens]
  · refine ⟨before, rest, ?_⟩
    rw [split]
    simp [tokens]

/-- The parameters of a call stand together in the stream that the call stands in. -/
theorem Call.HasParameters.isInfix {pattern : Pattern} {stream group : List Token} {call : Call}
    (parameters : call.HasParameters group) (member : call ∈ calls pattern stream) :
    group <:+: stream := by
  obtain ⟨id, category, reads⟩ := parameters
  obtain ⟨_, arguments, _, rfl, _⟩ := exists_groups_of_read reads
  obtain ⟨left, right, around⟩ := exists_around_parameters ⟨id, category, reads⟩
  rcases mem_calls_cases member with ⟨_, _, _, _, _, _, impossible⟩ |
    ⟨before, lead, inner, rest, split, _, _, same⟩
  · cases impossible
  · obtain ⟨_, rfl⟩ := Call.closed.inj same
    refine ⟨before ++ lead ++ Token.openParen :: left, right ++ Token.closeParen :: rest, ?_⟩
    rw [split, around]
    simp

/-- **A skipped call is a slice of the stream**, also if it is skipped in the parameters of another.
-/
theorem infix_of_mem_skippedCalls {pattern : Pattern} {stream : List Token} {call : Call}
    (member : call ∈ skippedCalls pattern stream) : call.tokens <:+: stream := by
  rw [skippedCalls, findings_eq, List.filterMap_flatMap, List.mem_flatMap] at member
  obtain ⟨outer, found, inside⟩ := member
  rcases outer.unreadable_or_message with unreadable | ⟨id, category, parameters, reads⟩
  · rw [Call.recordsAs_of_unreadable unreadable] at inside
    obtain rfl := List.mem_singleton.mp inside
    exact Call.infix_of_mem_calls found
  · cases parameters with
    | none =>
      rw [Call.recordsAs_of_message reads] at inside
      cases inside
    | some group =>
      have parameters : outer.HasParameters group := ⟨id, category, reads⟩
      have shorter := Call.length_parameters_lt found parameters
      rw [Call.recordsAs_of_parameters reads] at inside
      have nested : call ∈ skippedCalls pattern group := inside
      exact (infix_of_mem_skippedCalls nested).trans (parameters.isInfix found)
termination_by stream.length

end MessageHarvest
