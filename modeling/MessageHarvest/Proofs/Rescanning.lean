/-
**How deep scans are nested.**

The parameters of a call are scanned as a stream of their own. They are a slice of the stream that
the call stands in, and around them stand at least the tokens of the pattern, the two parentheses, a
token of the message and a comma. So scans are nested to a depth that the length of the outermost
stream bounds, whatever its tokens are.

* `Rescans` — one stream is scanned right on behalf of another.
* `Rescans.length_add_le` — what a stream has more than the parameters of its calls.
* `length_mul_le_of_isChain` — how long a chain of nested scans can be.
* `scanTo` — the scan down to a number of levels.
* `scanTo_eq_scan` — with enough levels, nothing beyond them is ever asked for.
* `rescanning_is_bounded` — the three together.
-/

import MessageHarvest.Proofs.Findings

namespace MessageHarvest

/-! ### One level -/

/-- The group is the parameters of one of the outermost calls of the stream. -/
def Rescans (pattern : Pattern) (stream group : List Token) : Prop :=
  ∃ call ∈ calls pattern stream, call.HasParameters group

namespace Rescans

variable {pattern : Pattern} {stream group : List Token}

/-- **What stands around parameters**: a lead, two parentheses, a message and a comma at least. -/
theorem length_add_le (rescans : Rescans pattern stream group) :
    group.length + pattern.length + 4 ≤ stream.length := by
  obtain ⟨call, member, parameters⟩ := rescans
  rcases mem_calls_cases member with ⟨_, _, _, _, _, _, rfl⟩ |
    ⟨before, lead, arguments, rest, split, isLead, _, rfl⟩
  · obtain ⟨_, _, impossible⟩ := parameters
    cases impossible
  · obtain ⟨first, right, filled, around⟩ := exists_first_before_parameters parameters
    have long : pattern.length ≤ lead.length := isLead.length_le
    have message : 0 < first.length := List.length_pos_iff.mpr filled
    rw [split, around]
    simp only [List.length_append, List.length_cons]
    omega

theorem length_lt (rescans : Rescans pattern stream group) : group.length < stream.length := by
  have bound := rescans.length_add_le
  omega

end Rescans

/-- No stream starts an endless chain of streams, each scanned on behalf of the one before it. -/
theorem wellFounded_rescans (pattern : Pattern) :
    WellFounded fun group stream => Rescans pattern stream group :=
  Subrelation.wf Rescans.length_lt (measure List.length).wf

/-! ### All levels -/

section Levels

variable {pattern : Pattern} {stream inner : List Token}

/-- Every stream that is scanned in the course of a scan is a slice of the outermost one. -/
theorem Scanned.isInfix (scanned : Scanned pattern stream inner) : inner <:+: stream := by
  induction scanned with
  | whole => exact List.infix_rfl
  | nested member parameters _ ih => exact ih.trans (parameters.isInfix member)

theorem Rescanned.isInfix (rescanned : Rescanned pattern stream inner) : inner <:+: stream := by
  obtain ⟨call, member, group, parameters, deeper⟩ := rescanned
  exact (Scanned.nested member parameters deeper).isInfix

theorem Rescanned.length_add_le (rescanned : Rescanned pattern stream inner) :
    inner.length + pattern.length + 4 ≤ stream.length := by
  obtain ⟨call, member, group, parameters, deeper⟩ := rescanned
  have outermost : Rescans pattern stream group := ⟨call, member, parameters⟩
  have around := outermost.length_add_le
  have inside := deeper.isInfix.length_le
  omega

/-- A chain of nested scans takes the tokens around parameters away once for each of its levels. -/
theorem length_mul_le_of_isChain {groups : List (List Token)}
    (chain : (stream :: groups).IsChain (Rescans pattern)) :
    groups.length * (pattern.length + 4) ≤ stream.length := by
  induction groups generalizing stream with
  | nil => rw [List.length_nil, Nat.zero_mul]; exact Nat.zero_le _
  | cons group groups ih =>
    obtain ⟨rescans, deeper⟩ := List.isChain_cons_cons.mp chain
    calc (group :: groups).length * (pattern.length + 4)
        = groups.length * (pattern.length + 4) + (pattern.length + 4) := Nat.succ_mul _ _
      _ ≤ group.length + (pattern.length + 4) := Nat.add_le_add_right (ih deeper) _
      _ ≤ stream.length := rescans.length_add_le

end Levels

/-! ### Scanning down to a level -/

/-- The scan with a number of levels: the stream itself takes one of them, and each scan of
parameters one more. Where none is left, the answer comes from elsewhere. -/
def scanTo (pattern : Pattern) (defaultCategory : String)
    (beyond : List Token → Logged Extraction) : (levels : Nat) → List Token → Logged Extraction
  | 0, stream => beyond stream
  | levels + 1, stream => do
    let outcomes ← (calls pattern stream).mapM fun call =>
      call.resolve defaultCategory fun group _ => scanTo pattern defaultCategory beyond levels group
    return Extraction.ofOutcomes outcomes

theorem Logged.mapM_congr {α β : Type} {first second : α → Logged β} {items : List α}
    (same : ∀ item ∈ items, first item = second item) : items.mapM first = items.mapM second := by
  induction items with
  | nil => rfl
  | cons item items ih =>
    rw [List.mapM_cons, List.mapM_cons, same item List.mem_cons_self,
      ih fun other member => same other (List.mem_cons_of_mem _ member)]

/-- **With enough levels, nothing beyond them is asked for.** -/
theorem scanTo_eq_scan {pattern : Pattern} (defaultCategory : String)
    (beyond : List Token → Logged Extraction) {levels : Nat} {stream : List Token}
    (enough : stream.length < levels * (pattern.length + 4)) :
    scanTo pattern defaultCategory beyond levels stream = scan pattern defaultCategory stream := by
  induction levels generalizing stream with
  | zero =>
    rw [Nat.zero_mul] at enough
    exact absurd enough (Nat.not_lt_zero _)
  | succ levels ih =>
    have resolved (call : Call) (member : call ∈ calls pattern stream) :
        (call.resolve defaultCategory fun group _ =>
          scanTo pattern defaultCategory beyond levels group) =
        call.resolve defaultCategory fun group _ => scan pattern defaultCategory group := by
      congr 1
      funext group parameters
      -- The parameters are shorter by what one level takes.
      have rescans : Rescans pattern stream group := ⟨call, member, parameters⟩
      have around := rescans.length_add_le
      rw [Nat.succ_mul] at enough
      exact ih (by omega)
    rw [scanTo, scan_eq, Logged.mapM_congr resolved]

/-- **Nested scans are bounded.** All parameters that are scanned in the course of a scan, at every
depth, are slices of the stream, shorter than it by the pattern and four tokens at least. So nested
scans come to an end; they are nested no deeper than the pattern and four more tokens fit into the
stream, and a scan that may not go deeper than that misses nothing. -/
theorem rescanning_is_bounded (pattern : Pattern) (defaultCategory : String) (stream : List Token) :
    (∀ group, Rescanned pattern stream group →
      group.length + pattern.length + 4 ≤ stream.length ∧ group <:+: stream) ∧
    Acc (fun inner outer => Rescans pattern outer inner) stream ∧
    (∀ groups, (stream :: groups).IsChain (Rescans pattern) →
      groups.length ≤ stream.length / (pattern.length + 4)) ∧
    ∀ beyond,
      scanTo pattern defaultCategory beyond (stream.length / (pattern.length + 4) + 1) stream =
        scan pattern defaultCategory stream := by
  have positive : 0 < pattern.length + 4 := Nat.succ_pos _
  refine ⟨?_, (wellFounded_rescans pattern).apply stream, ?_, ?_⟩
  · intro group rescanned
    exact ⟨rescanned.length_add_le, rescanned.isInfix⟩
  · intro groups chain
    exact (Nat.le_div_iff_mul_le positive).mpr (length_mul_le_of_isChain chain)
  · intro beyond
    exact scanTo_eq_scan defaultCategory beyond
      ((Nat.div_lt_iff_lt_mul positive).mp (Nat.lt_succ_self _))

/-- The stream `->translate('b',)`. -/
def emptyParameters : List Token :=
  arrowTranslateAt 2 ++
    [Token.openParen, .lexeme Kind.string "'b'" 2, Token.comma, Token.closeParen]

/-- The stream `->translate('a',->translate('b',))`. -/
def parametersInParameters : List Token :=
  arrowTranslateAt 1 ++ [Token.openParen, .lexeme Kind.string "'a'" 1, Token.comma] ++
    emptyParameters ++ [Token.closeParen]

/-- Two levels of parameters with nothing to spare: the bounds are reached. -/
theorem parametersInParameters_reach_bounds :
    Rescanned arrowTranslate parametersInParameters emptyParameters ∧
    emptyParameters.length + arrowTranslate.length + 4 = parametersInParameters.length ∧
    emptyParameters <:+: parametersInParameters ∧
    [parametersInParameters, emptyParameters, []].IsChain (Rescans arrowTranslate) ∧
    [emptyParameters, []].length = parametersInParameters.length / (arrowTranslate.length + 4) := by
  have outer : Rescans arrowTranslate parametersInParameters emptyParameters :=
    ⟨.closed parametersInParameters (parametersInParameters.drop 3).dropLast, by decide, "a", none,
      by decide +kernel⟩
  have inner : Rescans arrowTranslate emptyParameters [] :=
    ⟨.closed emptyParameters (emptyParameters.drop 3).dropLast, by decide, "b", none,
      by decide +kernel⟩
  have rescanned : Rescanned arrowTranslate parametersInParameters emptyParameters := by
    obtain ⟨call, member, parameters⟩ := outer
    exact ⟨call, member, _, parameters, Scanned.whole _⟩
  have chain : [parametersInParameters, emptyParameters, []].IsChain (Rescans arrowTranslate) :=
    List.isChain_cons_cons.mpr ⟨outer, List.isChain_cons_cons.mpr ⟨inner, List.IsChain.singleton _⟩⟩
  obtain ⟨slices, _, levels, _⟩ :=
    rescanning_is_bounded arrowTranslate "app" parametersInParameters
  obtain ⟨shorter, slice⟩ := slices emptyParameters rescanned
  exact ⟨rescanned, Nat.le_antisymm shorter (by decide), slice, chain,
    Nat.le_antisymm (levels _ chain) (by decide)⟩

end MessageHarvest
