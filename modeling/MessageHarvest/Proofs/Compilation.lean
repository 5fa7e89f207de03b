/-
**Compiling a fragment of source.**

A pattern is compiled from tokens that spell more than its fragment: an opening stands before it and
the ending of a call behind it. The tokens are told apart by their places in the text alone. If no
token reaches over an end of the fragment, they fall into those before it, those that spell it and
those behind it, and a token without text that stands at an end of the fragment is taken into it.

* `Token.Straddled`, `Token.CutAt` — a token reaches over a position, or tokens end there.
* `Token.straddled_or_exists_run` — one of the two holds at every position.
* `tokensBetween?_run`, `tokensBetween?_of_straddled` — what is selected in either case.
* `IsLargestRun` — the largest run of tokens that spells a fragment in its place.
* `compile_keeps_fragment` — a pattern is made of the significant tokens of this run, and there is
  none if a token is broken or too few are left.
* `compiled_pattern_finds_its_call` — the pattern finds the call in which its fragment was tokenised.
-/

import MessageHarvest.Pattern.Fragment
import MessageHarvest.Proofs.CallLayout
import MessageHarvest.Proofs.Lossless
import MessageHarvest.Proofs.Records

namespace MessageHarvest

/-! ### Cutting tokens at a position -/

namespace Token

/-- Some tokens end and the others start at a position of what all of them spell. -/
def CutAt (tokens : List Token) (position : Nat) : Prop :=
  ∃ before after, tokens = before ++ after ∧ (source before).length = position

/-- One of the tokens reaches over a position of what they spell. -/
def Straddled (tokens : List Token) (position : Nat) : Prop :=
  ∃ before token after, tokens = before ++ token :: after ∧
    (source before).length < position ∧ position < (source before).length + token.text.length

/-- Every part at the start of the tokens spells something. -/
def SpellsAtStart (tokens : List Token) : Prop :=
  ∀ part, part <+: tokens → (source part).length = 0 → part = []

/-- Every part at the end of the tokens spells something. -/
def SpellsAtEnd (tokens : List Token) : Prop :=
  ∀ part, part <:+ tokens → (source part).length = 0 → part = []

theorem Straddled.prepend {tokens : List Token} {position : Nat} (straddled : Straddled tokens position)
    (first : List Token) : Straddled (first ++ tokens) ((source first).length + position) := by
  obtain ⟨before, token, after, rfl, starts, ends⟩ := straddled
  refine ⟨first ++ before, token, after, by rw [List.append_assoc], ?_, ?_⟩
  · rw [source_append, String.length_append]
    omega
  · rw [source_append, String.length_append]
    omega

theorem straddled_of_lt {token : Token} {rest : List Token} {position : Nat} (positive : 0 < position)
    (short : position < token.text.length) : Straddled (token :: rest) position :=
  ⟨[], token, rest, rfl, positive, by simpa using short⟩

/-- Behind its first token a stream is straddled where the rest of it is. -/
theorem Straddled.cons {token : Token} {rest : List Token} {position : Nat}
    (behind : token.text.length ≤ position)
    (straddled : Straddled rest (position - token.text.length)) :
    Straddled (token :: rest) position := by
  have shifted := straddled.prepend [token]
  have place : (source [token]).length + (position - token.text.length) = position := by
    rw [source_cons, source_nil, String.append_empty]
    omega
  rwa [place] at shifted

/-- **A position is straddled, or there is a first cut at it.** -/
theorem straddled_or_exists_first_cut {tokens : List Token} {position : Nat}
    (inside : position ≤ (source tokens).length) :
    Straddled tokens position ∨ ∃ before after, tokens = before ++ after ∧
      (source before).length = position ∧ SpellsAtEnd before := by
  induction tokens generalizing position with
  | nil =>
    refine Or.inr ⟨[], [], rfl, (Nat.le_zero.mp inside).symm, ?_⟩
    exact fun part suffix _ => List.suffix_nil.mp suffix
  | cons token rest ih =>
    rw [source_cons, String.length_append] at inside
    by_cases zero : position = 0
    · exact Or.inr ⟨[], token :: rest, rfl, zero.symm, fun part suffix _ => List.suffix_nil.mp suffix⟩
    · by_cases short : position < token.text.length
      · exact Or.inl (straddled_of_lt (Nat.pos_of_ne_zero zero) short)
      · have behind := Nat.not_lt.mp short
        have further : position - token.text.length ≤ (source rest).length := by omega
        rcases ih further with straddled | ⟨before, after, rfl, width, spells⟩
        · exact Or.inl (straddled.cons behind)
        · have wider : (source (token :: before)).length = position := by
            rw [source_cons, String.length_append]
            omega
          refine Or.inr ⟨token :: before, after, rfl, wider, fun part suffix none => ?_⟩
          rcases List.suffix_cons_iff.mp suffix with rfl | suffix
          · exact absurd (wider.symm.trans none) zero
          · exact spells part suffix none

/-- **A position is straddled, or there is a last cut at it.** -/
theorem straddled_or_exists_last_cut {tokens : List Token} {position : Nat}
    (inside : position ≤ (source tokens).length) :
    Straddled tokens position ∨ ∃ before after, tokens = before ++ after ∧
      (source before).length = position ∧ SpellsAtStart after := by
  induction tokens generalizing position with
  | nil =>
    refine Or.inr ⟨[], [], rfl, (Nat.le_zero.mp inside).symm, ?_⟩
    exact fun part starts _ => List.prefix_nil.mp starts
  | cons token rest ih =>
    rw [source_cons, String.length_append] at inside
    by_cases short : position < token.text.length
    · by_cases zero : position = 0
      · refine Or.inr ⟨[], token :: rest, rfl, zero.symm, fun part starts none => ?_⟩
        cases part with
        | nil => rfl
        | cons head part =>
          obtain ⟨rfl, _⟩ := List.cons_prefix_cons.mp starts
          rw [source_cons, String.length_append] at none
          omega
      · exact Or.inl (straddled_of_lt (Nat.pos_of_ne_zero zero) short)
    · have behind := Nat.not_lt.mp short
      have further : position - token.text.length ≤ (source rest).length := by omega
      rcases ih further with straddled | ⟨before, after, rfl, width, spells⟩
      · exact Or.inl (straddled.cons behind)
      · refine Or.inr ⟨token :: before, after, rfl, ?_, spells⟩
        rw [source_cons, String.length_append]
        omega

/-- No token reaches over a position where tokens are cut. -/
theorem CutAt.not_straddled {tokens : List Token} {position : Nat} (cut : CutAt tokens position) :
    ¬ Straddled tokens position := by
  obtain ⟨first, second, rfl, width⟩ := cut
  rintro ⟨before, token, after, split, starts, ends⟩
  rcases List.append_eq_append_iff.mp split with ⟨middle, rfl, _⟩ | ⟨middle, rfl, next⟩
  · rw [source_append, String.length_append] at starts
    omega
  · rw [source_append, String.length_append] at width
    cases middle with
    | nil => exact absurd width (Nat.ne_of_lt starts)
    | cons head middle =>
      obtain ⟨rfl, _⟩ := List.cons.inj next
      rw [source_cons, String.length_append] at width
      omega

/-- **Both ends of a range are cut, or one of them is straddled.** Tokens without text that stand at an
end of the range are counted among those inside it. -/
theorem straddled_or_exists_run {tokens : List Token} {start width : Nat}
    (inside : start + width ≤ (source tokens).length) :
    (Straddled tokens start ∨ Straddled tokens (start + width)) ∨
      ∃ before run after, tokens = before ++ run ++ after ∧ (source before).length = start ∧
        (source run).length = width ∧ SpellsAtEnd before ∧ SpellsAtStart after := by
  rcases straddled_or_exists_first_cut (Nat.le_of_add_right_le inside) with
    straddled | ⟨before, rest, rfl, rfl, spellsAtEnd⟩
  · exact Or.inl (Or.inl straddled)
  · rw [source_append, String.length_append] at inside
    rcases straddled_or_exists_last_cut (Nat.le_of_add_le_add_left inside) with
      straddled | ⟨run, after, rfl, rfl, spellsAtStart⟩
    · exact Or.inl (Or.inr (straddled.prepend before))
    · exact Or.inr ⟨before, run, after, by rw [List.append_assoc], rfl, rfl, spellsAtEnd,
        spellsAtStart⟩

end Token

/-! ### What is selected -/

section Selection

variable {start stop offset : Nat}

/-- Tokens before the range are passed over. -/
theorem tokensBetween?_before {before : List Token} (ordered : start ≤ stop)
    (place : offset + (Token.source before).length = start) (spells : Token.SpellsAtEnd before)
    (rest : List Token) :
    tokensBetween? start stop offset (before ++ rest) = tokensBetween? start stop start rest := by
  induction before generalizing offset with
  | nil =>
    obtain rfl : offset = start := place
    rfl
  | cons token before ih =>
    have wide : (Token.source (token :: before)).length ≠ 0 := fun none =>
      List.cons_ne_nil _ _ (spells _ List.suffix_rfl none)
    rw [Token.source_cons, String.length_append] at place wide
    rw [List.cons_append, tokensBetween?, if_neg (by omega), ih (by omega) fun part suffix =>
      spells part (List.suffix_cons_iff.mpr (Or.inr suffix))]
    simp [show ¬ start ≤ offset by omega]

/-- Tokens inside the range are selected. -/
theorem tokensBetween?_inside {run : List Token} (fromStart : start ≤ offset)
    (upToStop : offset + (Token.source run).length ≤ stop) (rest : List Token) :
    tokensBetween? start stop offset (run ++ rest) =
      (tokensBetween? start stop (offset + (Token.source run).length) rest).map (run ++ ·) := by
  induction run generalizing offset with
  | nil => exact (Option.map_id' ..).symm
  | cons token run ih =>
    rw [Token.source_cons, String.length_append] at upToStop ⊢
    rw [List.cons_append, tokensBetween?, if_neg (by omega), ih (by omega) (by omega), Option.map_map,
      Nat.add_assoc]
    congr 1
    funext tokens
    simp [show start ≤ offset ∧ offset + token.text.length ≤ stop by omega]

/-- Tokens behind the range are passed over. -/
theorem tokensBetween?_behind {after : List Token} (ordered : start ≤ stop) (reached : stop ≤ offset)
    (spells : stop < offset ∨ Token.SpellsAtStart after) :
    tokensBetween? start stop offset after = some [] := by
  induction after generalizing offset with
  | nil => rw [tokensBetween?, if_neg (Nat.not_lt.mpr reached)]
  | cons token after ih =>
    have beyond : stop < offset + token.text.length := by
      rcases spells with behind | spells
      · omega
      · have wide : (Token.source [token]).length ≠ 0 := fun none =>
          List.cons_ne_nil _ _ (spells [token] ⟨after, rfl⟩ none)
        rw [Token.source_cons, Token.source_nil, String.append_empty] at wide
        omega
    rw [tokensBetween?, if_neg (by omega), ih (Nat.le_of_lt beyond) (Or.inl beyond)]
    simp [show ¬ offset + token.text.length ≤ stop by omega]

/-- **The run of tokens in a range is selected**, with the tokens without text at its ends. -/
theorem tokensBetween?_run {before run after : List Token} (spellsAtEnd : Token.SpellsAtEnd before)
    (spellsAtStart : Token.SpellsAtStart after) :
    tokensBetween? (Token.source before).length
        ((Token.source before).length + (Token.source run).length) 0 (before ++ run ++ after) =
      some run := by
  have ordered := Nat.le_add_right (Token.source before).length (Token.source run).length
  rw [List.append_assoc, tokensBetween?_before ordered (Nat.zero_add _) spellsAtEnd,
    tokensBetween?_inside (Nat.le_refl _) (Nat.le_refl _),
    tokensBetween?_behind ordered (Nat.le_refl _) (Or.inr spellsAtStart), Option.map_some,
    List.append_nil]

/-- A token that reaches over an end of the range spoils the selection, whatever stands before it. -/
theorem tokensBetween?_crossed {before after : List Token} {token : Token} {width : Nat}
    (place : offset + (Token.source before).length = width)
    (crosses : (width < start ∧ start < width + token.text.length) ∨
      (width < stop ∧ stop < width + token.text.length)) :
    tokensBetween? start stop offset (before ++ token :: after) = none := by
  induction before generalizing offset with
  | nil =>
    obtain rfl : offset = width := place
    rw [List.nil_append, tokensBetween?, if_pos crosses]
  | cons head before ih =>
    rw [Token.source_cons, String.length_append] at place
    rw [List.cons_append, tokensBetween?, ih (by omega)]
    split
    · rfl
    · rfl

/-- **Nothing is selected where a token reaches over an end of the range.** -/
theorem tokensBetween?_of_straddled {tokens : List Token}
    (straddled : Token.Straddled tokens start ∨ Token.Straddled tokens stop) :
    tokensBetween? start stop 0 tokens = none := by
  rcases straddled with ⟨before, token, after, rfl, crosses⟩ | ⟨before, token, after, rfl, crosses⟩
  · exact tokensBetween?_crossed (Nat.zero_add _) (Or.inl crosses)
  · exact tokensBetween?_crossed (Nat.zero_add _) (Or.inr crosses)

end Selection

/-! ### Runs that spell a fragment -/

namespace SourceText

@[simp]
theorem length_ofString (text : String) : (ofString text).length = text.length := by
  rw [ofString, List.length_map, String.length_toList]

@[simp]
theorem ofString_append (first second : String) :
    ofString (first ++ second) = ofString first ++ ofString second := by
  rw [ofString, String.toList_append, List.map_append, ofString, ofString]

end SourceText

/-- Tokens fall into three runs that spell an opening, a fragment and an ending. -/
structure IsRun (opening fragment ending : SourceText) (tokens before run after : List Token) :
    Prop where
  split : tokens = before ++ run ++ after
  opening_eq : SourceText.ofString (Token.source before) = opening
  fragment_eq : SourceText.ofString (Token.source run) = fragment
  ending_eq : SourceText.ofString (Token.source after) = ending

/-- The largest run of tokens that spells a fragment between its opening and its ending: every other
one lies inside it. -/
structure IsLargestRun (opening fragment ending : SourceText) (tokens before run after : List Token) :
    Prop extends IsRun opening fragment ending tokens before run after where
  largest : ∀ otherBefore other otherAfter,
    IsRun opening fragment ending tokens otherBefore other otherAfter →
      before <+: otherBefore ∧ after <:+ otherAfter

section Runs

variable {opening fragment ending : SourceText} {tokens before run after : List Token}

theorem IsRun.length_before (isRun : IsRun opening fragment ending tokens before run after) :
    (Token.source before).length = opening.length := by
  rw [← isRun.opening_eq, SourceText.length_ofString]

theorem IsRun.length_run (isRun : IsRun opening fragment ending tokens before run after) :
    (Token.source run).length = fragment.length := by
  rw [← isRun.fragment_eq, SourceText.length_ofString]

/-- Tokens of the right widths spell the parts of what all of them spell. -/
theorem IsRun.of_lengths
    (lossless : SourceText.ofString (Token.source tokens) = opening ++ fragment ++ ending)
    (split : tokens = before ++ run ++ after)
    (beforeWidth : (Token.source before).length = opening.length)
    (runWidth : (Token.source run).length = fragment.length) :
    IsRun opening fragment ending tokens before run after := by
  rw [split, Token.source_append, Token.source_append, SourceText.ofString_append,
    SourceText.ofString_append, List.append_assoc, List.append_assoc] at lossless
  obtain ⟨opening_eq, rest⟩ :=
    List.append_inj lossless (by rw [SourceText.length_ofString, beforeWidth])
  obtain ⟨fragment_eq, ending_eq⟩ :=
    List.append_inj rest (by rw [SourceText.length_ofString, runWidth])
  exact ⟨split, opening_eq, fragment_eq, ending_eq⟩

/-- Tokens are cut at both ends of a run. -/
theorem IsRun.cutAt (isRun : IsRun opening fragment ending tokens before run after) :
    Token.CutAt tokens opening.length ∧ Token.CutAt tokens (opening.length + fragment.length) := by
  refine ⟨⟨before, run ++ after, ?_, isRun.length_before⟩, before ++ run, after, isRun.split, ?_⟩
  · rw [isRun.split, List.append_assoc]
  · rw [Token.source_append, String.length_append, isRun.length_before, isRun.length_run]

/-- A run is the largest one if the tokens around it spell something at its ends. -/
theorem IsRun.isLargestRun (isRun : IsRun opening fragment ending tokens before run after)
    (spellsAtEnd : Token.SpellsAtEnd before) (spellsAtStart : Token.SpellsAtStart after) :
    IsLargestRun opening fragment ending tokens before run after := by
  refine ⟨isRun, fun otherBefore other otherAfter isOther => ⟨?_, ?_⟩⟩
  · have same : Token.source otherBefore = Token.source before :=
      SourceText.ofString_injective (isOther.opening_eq.trans isRun.opening_eq.symm)
    have leads : before <+: tokens := ⟨run ++ after, by rw [isRun.split, List.append_assoc]⟩
    have otherLeads : otherBefore <+: tokens :=
      ⟨other ++ otherAfter, by rw [isOther.split, List.append_assoc]⟩
    rcases List.prefix_or_prefix_of_prefix leads otherLeads with shorter | ⟨part, rfl⟩
    · exact shorter
    · rw [Token.source_append, eq_comm, String.append_eq_left_iff] at same
      rw [spellsAtEnd part (List.suffix_append _ _) (by rw [same]; rfl), List.append_nil]
  · have same : Token.source otherAfter = Token.source after :=
      SourceText.ofString_injective (isOther.ending_eq.trans isRun.ending_eq.symm)
    have ends : after <:+ tokens := ⟨before ++ run, isRun.split.symm⟩
    have otherEnds : otherAfter <:+ tokens := ⟨otherBefore ++ other, isOther.split.symm⟩
    rcases List.suffix_or_suffix_of_suffix ends otherEnds with shorter | ⟨part, rfl⟩
    · exact shorter
    · rw [Token.source_append, eq_comm, String.append_eq_right_iff] at same
      rw [spellsAtStart part (List.prefix_append _ _) (by rw [same]; rfl), List.nil_append]

/-- There is one largest run. -/
theorem IsLargestRun.unique {otherBefore other otherAfter : List Token}
    (first : IsLargestRun opening fragment ending tokens before run after)
    (second : IsLargestRun opening fragment ending tokens otherBefore other otherAfter) :
    run = other := by
  obtain ⟨leads, ends⟩ := first.largest _ _ _ second.toIsRun
  obtain ⟨otherLeads, otherEnds⟩ := second.largest _ _ _ first.toIsRun
  obtain rfl := leads.eq_of_length_le otherLeads.length_le
  obtain rfl := ends.eq_of_length_le otherEnds.length_le
  exact List.append_cancel_left (List.append_cancel_right (first.split.symm.trans second.split))

end Runs

/-! ### Compiling -/

/-- A token reaches over the start or the end of a fragment. -/
def BreaksFragment (fragment : SourceText) (nonempty : fragment ≠ []) (tokens : List Token) : Prop :=
  Token.Straddled tokens (openingOf fragment nonempty).length ∨
    Token.Straddled tokens ((openingOf fragment nonempty).length + fragment.length)

/-- The largest run of tokens that spells a fragment, between those that spell its opening and those
that spell the ending of the call. -/
def IsFragmentRun (fragment : SourceText) (nonempty : fragment ≠ [])
    (tokens before run after : List Token) : Prop :=
  IsLargestRun (openingOf fragment nonempty) fragment (SourceText.ofString callEnding) tokens before run
    after

/-- There is no pattern, for a reason with the given message. -/
def Refused {Error : Type} (result : Except (CompileError Error) Pattern) (message : String) : Prop :=
  ∃ error, result = .error (.pattern error) ∧ error.message = message

/-- A text is not shown between letters. -/
theorem Text.enclosingQuote_ne (text : SourceText) : enclosingQuote text ≠ 'p' := by
  unfold enclosingQuote
  split
  · decide
  · decide

/-- The messages for too few tokens and for a broken token differ: only the second one goes on with a
quote. -/
theorem PatternError.message_tooFewTokens_ne (count : Nat) (fragment : SourceText) :
    (tooFewTokens count).message ≠ (brokenToken fragment).message := by
  have start : "Translator pattern must contain at least 2 tokens, got " =
      "Translator " ++ "pattern must contain at least 2 tokens, got " := by decide +kernel
  have tooFew : (tooFewTokens count).message =
      "Translator pattern must contain at least 2 tokens, got " ++ toString count := rfl
  have broken : (brokenToken fragment).message =
      "Translator " ++ Text.quoted fragment ++ " does not split into whole tokens" := rfl
  obtain ⟨rest, opens⟩ :
      ∃ rest, (Text.quoted fragment).toList = Text.enclosingQuote fragment :: rest :=
    ⟨_, String.toList_ofList⟩
  rw [tooFew, broken, start, String.append_assoc, String.append_assoc]
  intro same
  have quotes := congrArg String.toList ((String.append_right_inj _).mp same)
  rw [String.toList_append, String.toList_append, opens] at quotes
  exact Text.enclosingQuote_ne fragment (List.cons.inj quotes).1.symm

section Compiling

variable {Error : Type} {tokeniser : Tokeniser Error} {fragment : SourceText}
  {nonempty : fragment ≠ []} {tokens : List Token}

/-- A fragment that is not empty is tokenised in its source. -/
theorem Pattern.value_compile (nonempty : fragment ≠ []) (tokeniser : Tokeniser Error) :
    (compile fragment tokeniser).value =
      match (tokeniser (embedded fragment nonempty)).value with
      | .error error => .error (.tokeniser error)
      | .ok tokens => (ofFragmentTokens fragment nonempty tokens).mapError .pattern := by
  rw [compile, dif_neg nonempty, Logged.value_bind]
  cases (tokeniser (embedded fragment nonempty)).value <;> rfl

/-- A fragment that is not empty is not refused as empty. -/
theorem Pattern.compile_ne_emptyFragment (nonempty : fragment ≠ []) (tokeniser : Tokeniser Error) :
    (compile fragment tokeniser).value ≠ .error (.pattern .emptyFragment) := by
  rw [value_compile nonempty]
  split
  · exact fun same => by cases same
  · rw [ofFragmentTokens]
    split
    · exact fun same => by cases same
    · rw [ofTokens]
      split
      · exact fun same => by cases same
      · exact fun same => by cases same

/-- The tokens of a compiled pattern are the significant ones among those selected. -/
theorem Pattern.tokens_of_compile {selected : List Token} {pattern : Pattern}
    (read : (tokeniser (embedded fragment nonempty)).value = .ok tokens)
    (compiled : (compile fragment tokeniser).value = .ok pattern)
    (selects : selection? fragment nonempty tokens = some selected) :
    pattern.tokens = Token.significant selected := by
  simp only [value_compile nonempty, read, ofFragmentTokens, selects, ofTokens] at compiled
  split at compiled
  · cases compiled
    rfl
  · cases compiled

/-- No token breaks a fragment that a run of tokens spells. -/
theorem IsFragmentRun.not_breaksFragment {before run after : List Token}
    (isRun : IsFragmentRun fragment nonempty tokens before run after) :
    ¬ BreaksFragment fragment nonempty tokens :=
  not_or.mpr ⟨isRun.cutAt.1.not_straddled, isRun.cutAt.2.not_straddled⟩

/-- **What is selected for a fragment**: nothing if a token breaks it, and else the run that spells it. -/
theorem selection_cases
    (lossless : SourceText.ofString (Token.source tokens) = embedded fragment nonempty) :
    (BreaksFragment fragment nonempty tokens ∧ selection? fragment nonempty tokens = none) ∨
    ∃ before run after, IsFragmentRun fragment nonempty tokens before run after ∧
      selection? fragment nonempty tokens = some run := by
  have inside : (openingOf fragment nonempty).length + fragment.length ≤
      (Token.source tokens).length := by
    rw [← SourceText.length_ofString, lossless, embedded, List.length_append, List.length_append]
    exact Nat.le_add_right _ _
  rcases Token.straddled_or_exists_run inside with
    straddled | ⟨before, run, after, split, beforeWidth, runWidth, spellsAtEnd, spellsAtStart⟩
  · exact Or.inl ⟨straddled, tokensBetween?_of_straddled straddled⟩
  · have isRun := IsRun.of_lengths lossless split beforeWidth runWidth
    refine Or.inr ⟨before, run, after, isRun.isLargestRun spellsAtEnd spellsAtStart, ?_⟩
    rw [selection?, split, ← beforeWidth, ← runWidth, tokensBetween?_run spellsAtEnd spellsAtStart]

/-- **What compiling comes to.** A token breaks the fragment; or the significant tokens of the run that
spells it make the pattern; or they are too few. -/
theorem compile_cases (read : (tokeniser (embedded fragment nonempty)).value = .ok tokens)
    (lossless : SourceText.ofString (Token.source tokens) = embedded fragment nonempty) :
    (BreaksFragment fragment nonempty tokens ∧
      (Pattern.compile fragment tokeniser).value = .error (.pattern (.brokenToken fragment))) ∨
    ∃ before run after, IsFragmentRun fragment nonempty tokens before run after ∧
      ((∃ pattern, (Pattern.compile fragment tokeniser).value = .ok pattern ∧
          pattern.tokens = Token.significant run) ∨
        ((Token.significant run).length < 2 ∧ (Pattern.compile fragment tokeniser).value =
          .error (.pattern (.tooFewTokens (Token.significant run).length)))) := by
  simp only [Pattern.value_compile nonempty, read, Pattern.ofFragmentTokens]
  rcases selection_cases lossless with ⟨broken, none⟩ | ⟨before, run, after, isRun, selects⟩
  · refine Or.inl ⟨broken, ?_⟩
    rw [none]
    rfl
  · refine Or.inr ⟨before, run, after, isRun, ?_⟩
    rw [selects]
    by_cases enough : 2 ≤ (Token.significant run).length
    · refine Or.inl ⟨⟨Token.significant run, enough⟩, ?_, rfl⟩
      simp only [Pattern.ofTokens, dif_pos enough]
      rfl
    · refine Or.inr ⟨Nat.not_le.mp enough, ?_⟩
      simp only [Pattern.ofTokens, dif_neg enough]
      rfl

/-- **Compiling keeps exactly the fragment.** Let the tokens spell the source in which a fragment is
tokenised. There is a pattern exactly if tokens are cut at both ends of the fragment and the run between
them holds two significant tokens. The pattern is then made of the significant tokens of that run, which
is the largest one; the tokens before it spell the opening and those behind it the ending. The fragment
is refused as broken exactly if a token reaches over one of its ends, and otherwise because of too few
tokens. -/
theorem compile_keeps_fragment (read : (tokeniser (embedded fragment nonempty)).value = .ok tokens)
    (lossless : SourceText.ofString (Token.source tokens) = embedded fragment nonempty) :
    ((∃ pattern, (Pattern.compile fragment tokeniser).value = .ok pattern) ↔
      Token.CutAt tokens (openingOf fragment nonempty).length ∧
      Token.CutAt tokens ((openingOf fragment nonempty).length + fragment.length) ∧
      ∃ before run after, IsFragmentRun fragment nonempty tokens before run after ∧
        2 ≤ (Token.significant run).length) ∧
    (∀ pattern, (Pattern.compile fragment tokeniser).value = .ok pattern →
      ∃ before run after, IsFragmentRun fragment nonempty tokens before run after ∧
        pattern.tokens = Token.significant run) ∧
    (Refused (Pattern.compile fragment tokeniser).value
        ("Translator " ++ Text.quoted fragment ++ " does not split into whole tokens") ↔
      BreaksFragment fragment nonempty tokens) ∧
    ((∀ pattern, (Pattern.compile fragment tokeniser).value ≠ .ok pattern) →
      ¬ BreaksFragment fragment nonempty tokens →
      ∃ before run after, IsFragmentRun fragment nonempty tokens before run after ∧
        (Token.significant run).length < 2 ∧
        Refused (Pattern.compile fragment tokeniser).value
          ("Translator pattern must contain at least 2 tokens, got " ++
            toString (Token.significant run).length)) := by
  rcases compile_cases read lossless with ⟨broken, refused⟩ |
    ⟨before, run, after, isRun, ⟨pattern, compiled, tokens_eq⟩ | ⟨few, refused⟩⟩
  · rw [refused]
    refine ⟨⟨?_, ?_⟩, ?_, ⟨fun _ => broken, fun _ => ⟨_, rfl, rfl⟩⟩, fun _ whole => absurd broken whole⟩
    · rintro ⟨pattern, ⟨⟩⟩
    · rintro ⟨start, stop, _⟩
      exact broken.elim start.not_straddled.elim stop.not_straddled.elim
    · rintro pattern ⟨⟩
  · have enough : 2 ≤ (Token.significant run).length := tokens_eq ▸ pattern.two_le_length
    rw [compiled]
    refine ⟨⟨fun _ => ?_, fun _ => ⟨_, rfl⟩⟩, ?_, ⟨?_, fun broken => ?_⟩, fun fails => ?_⟩
    · exact ⟨isRun.cutAt.1, isRun.cutAt.2, before, run, after, isRun, enough⟩
    · rintro _ ⟨⟩
      exact ⟨before, run, after, isRun, tokens_eq⟩
    · rintro ⟨error, ⟨⟩, _⟩
    · exact absurd broken isRun.not_breaksFragment
    · exact absurd rfl (fails pattern)
  · rw [refused]
    refine ⟨⟨?_, ?_⟩, ?_, ⟨?_, fun broken => ?_⟩, fun _ _ => ?_⟩
    · rintro ⟨pattern, ⟨⟩⟩
    · rintro ⟨_, _, otherBefore, other, otherAfter, otherRun, enough⟩
      rw [← isRun.unique otherRun] at enough
      exact absurd enough (Nat.not_le.mpr few)
    · rintro pattern ⟨⟩
    · rintro ⟨error, ⟨⟩, same⟩
      exact absurd same (PatternError.message_tooFewTokens_ne _ fragment)
    · exact absurd broken isRun.not_breaksFragment
    · exact ⟨before, run, after, isRun, few, _, rfl, rfl⟩

end Compiling

namespace ChainedCall

/-- A fragment that holds a call, a blank and one operator twice. -/
def fragment : SourceText := SourceText.ofString "$x->f() ->t"

theorem fragment_ne_nil : fragment ≠ [] := by
  decide

/-- The tokens of the fragment, in front of which stands a blank without text. -/
def selected : List Token :=
  [.lexeme Kind.whitespace "" 1, .lexeme Kind.variableName "$x" 1, .lexeme Kind.operator "->" 1,
   .lexeme ⟨"name"⟩ "f" 1, Token.openParen, Token.closeParen, .lexeme Kind.whitespace " " 1,
   .lexeme Kind.operator "->" 1, .lexeme ⟨"name"⟩ "t" 1]

/-- The tokens of the source in which the fragment is tokenised. -/
def tokens : List Token :=
  [.lexeme Kind.openTag "<?php " 1] ++ selected ++
    [Token.openParen, Token.closeParen, .punctuation ";"]

/-- A tokeniser that knows these tokens only. -/
def tokeniser : Tokeniser Empty := fun _ => pure (.ok tokens)

/-- The pattern of the fragment. -/
def pattern : Pattern where
  tokens := Token.significant selected
  two_le_length := by decide

theorem lossless : SourceText.ofString (Token.source tokens) = embedded fragment fragment_ne_nil := by
  decide +kernel

theorem selects : selection? fragment fragment_ne_nil tokens = some selected := by
  decide +kernel

theorem compiled : (Pattern.compile fragment tokeniser).value = .ok pattern := by
  have read : (tokeniser (embedded fragment fragment_ne_nil)).value = .ok tokens := rfl
  simp only [Pattern.value_compile fragment_ne_nil, read, Pattern.ofFragmentTokens, selects]
  rfl

end ChainedCall

/-- The blank without text is taken into the fragment. -/
theorem chainedCall_keeps_fragment :
    SourceText.ofString (Token.source ChainedCall.tokens) =
        embedded ChainedCall.fragment ChainedCall.fragment_ne_nil ∧
      (Pattern.compile ChainedCall.fragment ChainedCall.tokeniser).value = .ok ChainedCall.pattern ∧
      ∃ before run after,
        IsFragmentRun ChainedCall.fragment ChainedCall.fragment_ne_nil ChainedCall.tokens before run
          after ∧
        ChainedCall.pattern.tokens = Token.significant run :=
  ⟨ChainedCall.lossless, ChainedCall.compiled,
    (compile_keeps_fragment rfl ChainedCall.lossless).2.1 ChainedCall.pattern ChainedCall.compiled⟩

/-! ### The call that a pattern was compiled from -/

theorem Token.significant_dropWhile (tokens : List Token) :
    significant (tokens.dropWhile isTrivia) = significant tokens := by
  induction tokens with
  | nil => rfl
  | cons token tokens ih =>
    by_cases trivia : token.isTrivia = true
    · rw [List.dropWhile_cons_of_pos trivia, ih]
      simp [significant, trivia]
    · rw [List.dropWhile_cons_of_neg trivia]

/-- Tokens without the trivia in front of them are a lead of their own significant tokens. -/
theorem isLead_dropWhile {tokens : List Token} (some : Token.significant tokens ≠ []) :
    IsLead (Token.significant tokens) (tokens.dropWhile Token.isTrivia) where
  starts := by
    have kept := Token.significant_dropWhile tokens
    have headPlain := List.head?_dropWhile_not Token.isTrivia tokens
    cases split : tokens.dropWhile Token.isTrivia with
    | nil =>
      rw [split] at kept
      exact absurd kept.symm some
    | cons token rest =>
      rw [split] at headPlain
      exact ⟨token, rest, rfl, headPlain⟩
  same := by
    rw [Token.significant_dropWhile]
    exact List.forall₂_same.mpr fun token _ => Token.Same.refl token

/-- A call without arguments has no message. -/
theorem Call.unreadable_of_no_arguments (tokens : List Token) : (closed tokens []).Unreadable :=
  fun _ _ _ impossible => by cases impossible

/-- **A call without arguments is skipped**, and nothing else is found where there is no other call. -/
theorem scan_empty_call {pattern : Pattern} {stream tokens : List Token} (defaultCategory : String)
    (found : calls pattern stream = [.closed tokens []]) :
    (scan pattern defaultCategory stream).value =
      { catalogue := Catalogue.empty, skipped := [(Call.closed tokens []).toSkipped] } := by
  rw [value_scan_eq_ofRecords, records_eq, found, List.flatMap_singleton,
    Call.recordsAs_of_unreadable (Call.unreadable_of_no_arguments tokens)]
  rfl

/-- A call without arguments is reported by the tokens before its parentheses. -/
theorem Call.toSkipped_of_no_arguments (lead : List Token) :
    (closed (lead ++ [Token.openParen, Token.closeParen]) []).toSkipped =
      { line := Token.firstLine? lead, source := Token.source lead ++ "()" } := by
  have line : Token.firstLine? (lead ++ [Token.openParen, Token.closeParen]) =
      Token.firstLine? lead := by
    rw [Token.firstLine?, List.findSome?_append]
    exact Option.or_none
  have parens : Token.source [Token.openParen, Token.closeParen] = "()" := by decide +kernel
  rw [toSkipped, tokens, line, Token.source_append, parens]

/-- Behind tokens that are foreign to the pattern, its own tokens and an empty list of arguments are the
only call. -/
theorem calls_own_call {pattern : Pattern} {before selected : List Token} {last : Token}
    (tokens_eq : pattern.tokens = Token.significant selected)
    (foreign : ∀ token ∈ before, token.isTrivia = false → ∀ expected ∈ pattern.tokens,
      ¬ token.Same expected) :
    calls pattern (before ++ selected ++ [Token.openParen, Token.closeParen, last]) =
      [.closed (selected.dropWhile Token.isTrivia ++ [Token.openParen, Token.closeParen]) []] := by
  have two := pattern.two_le_length
  have some : Token.significant selected ≠ [] := by
    rw [← tokens_eq]
    exact List.ne_nil_of_length_pos (Nat.lt_of_lt_of_le Nat.two_pos two)
  have isLead : IsLead pattern.tokens (selected.dropWhile Token.isTrivia) :=
    tokens_eq ▸ isLead_dropWhile some
  have passed : ∀ token ∈ before ++ selected.takeWhile Token.isTrivia, token.isTrivia = false →
      ∀ expected ∈ pattern.tokens, ¬ token.Same expected := by
    intro token member plain
    rcases List.mem_append.mp member with member | member
    · exact foreign token member plain
    · rw [List.all_eq_true.mp List.all_takeWhile token member] at plain
      cases plain
  have split : before ++ selected ++ [Token.openParen, Token.closeParen, last] =
      before ++ selected.takeWhile Token.isTrivia ++ (selected.dropWhile Token.isTrivia ++
        Token.openParen :: ([] ++ Token.closeParen :: [last])) := by
    rw [List.append_assoc before (selected.takeWhile _), ← List.append_assoc (selected.takeWhile _),
      List.takeWhile_append_dropWhile, ← List.append_assoc]
    rfl
  have short : [last].length ≤ pattern.length := Nat.le_of_succ_le two
  rw [split, calls_foreign_append passed, calls_call isLead Balanced.nil.enclosed,
    calls_of_length_le short]
  rfl

/-- **A compiled pattern finds the call that it was compiled from.** Let a fragment have been compiled
from tokens that spell its source: the tokens selected for the fragment, others before them, and two
parentheses and a semicolon behind them. If no significant token before the selected ones is a token of
the pattern, then scanning these tokens yields no message and skips one call, which spells the fragment
without the trivia in front of it and the two parentheses. -/
theorem compiled_pattern_finds_its_call {Error : Type} {tokeniser : Tokeniser Error}
    {fragment : SourceText} {nonempty : fragment ≠ []} {before selected : List Token}
    {pattern : Pattern}
    (read : (tokeniser (embedded fragment nonempty)).value =
      .ok (before ++ selected ++ [Token.openParen, Token.closeParen, .punctuation ";"]))
    (lossless : SourceText.ofString (Token.source
        (before ++ selected ++ [Token.openParen, Token.closeParen, .punctuation ";"])) =
      embedded fragment nonempty)
    (compiled : (Pattern.compile fragment tokeniser).value = .ok pattern)
    (selects : selection? fragment nonempty
        (before ++ selected ++ [Token.openParen, Token.closeParen, .punctuation ";"]) = some selected)
    (foreign : ∀ token ∈ before, token.isTrivia = false → ∀ expected ∈ pattern.tokens,
      ¬ token.Same expected) (defaultCategory : String) :
    SourceText.ofString (Token.source selected) = fragment ∧
      (scan pattern defaultCategory
        (before ++ selected ++ [Token.openParen, Token.closeParen, .punctuation ";"])).value =
          { catalogue := Catalogue.empty
            skipped := [{
              line := Token.firstLine? (selected.dropWhile Token.isTrivia)
              source := Token.source (selected.dropWhile Token.isTrivia) ++ "()" }] } := by
  have tokens_eq := Pattern.tokens_of_compile read compiled selects
  refine ⟨?_, ?_⟩
  · rcases selection_cases lossless with ⟨_, none⟩ | ⟨_, run, _, isRun, found⟩
    · rw [selects] at none
      cases none
    · obtain rfl := Option.some.inj (selects.symm.trans found)
      exact isRun.fragment_eq
  · rw [scan_empty_call defaultCategory (calls_own_call tokens_eq foreign),
      Call.toSkipped_of_no_arguments]

/-- The parentheses inside the fragment open no call. -/
theorem chainedCall_found :
    selection? ChainedCall.fragment ChainedCall.fragment_ne_nil ChainedCall.tokens =
        some ChainedCall.selected ∧
      (Pattern.compile ChainedCall.fragment ChainedCall.tokeniser).value = .ok ChainedCall.pattern ∧
      (scan ChainedCall.pattern "app" ChainedCall.tokens).value =
        { catalogue := Catalogue.empty, skipped := [⟨some 1, "$x->f() ->t()"⟩] } := by
  have foreign : ∀ token ∈ [Token.lexeme Kind.openTag "<?php " 1], token.isTrivia = false →
      ∀ expected ∈ ChainedCall.pattern.tokens, ¬ token.Same expected := by decide
  obtain ⟨_, found⟩ := compiled_pattern_finds_its_call rfl ChainedCall.lossless ChainedCall.compiled
    ChainedCall.selects foreign "app"
  have spelled : Token.source (ChainedCall.selected.dropWhile Token.isTrivia) ++ "()" =
      "$x->f() ->t()" := by decide +kernel
  rw [spelled] at found
  exact ⟨ChainedCall.selects, ChainedCall.compiled, found⟩

end MessageHarvest
