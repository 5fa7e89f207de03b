/-
**Nested brackets.**

Tokens are balanced if their brackets pair up by shape and pairs do not cross. A stack of brackets
recognises exactly these streams. A call, however, is closed by counting parentheses alone, so the
two ways of pairing are compared here: in a balanced stream the parenthesis that counting finds is
the partner of the opening one.

* `Balanced` — the grammar of balanced streams.
* `balanced_iff_feedAll` — a stack that starts empty ends balanced on these streams only.
* `stack_recognises_balanced_streams` — it is valid as long as the stream can still be balanced, and
  each token is answered accordingly.
* `StaysOpen`, `Enclosed` — what counting parentheses says of a stream.
* `Balanced.of_enclosed`, `Balanced.not_staysOpen` — counting from an opening parenthesis of a
  balanced stream ends at its partner, and what lies between them is balanced.
-/

import Mathlib.Data.List.Infix
import MessageHarvest.Bracket

namespace MessageHarvest

/-! ### Tokens and their brackets -/

namespace Bracket

/-- A token that is no bracket. -/
def IsPlain (token : Token) : Prop :=
  ∀ shape : Bracket, token ≠ shape.opener ∧ token ≠ shape.closer

@[simp]
theorem opened?_opener (shape : Bracket) : opened? shape.opener = some shape := by
  cases shape <;> decide

@[simp]
theorem opened?_closer (shape : Bracket) : opened? shape.closer = none := by
  cases shape <;> decide

@[simp]
theorem closed?_closer (shape : Bracket) : closed? shape.closer = some shape := by
  cases shape <;> decide

theorem opened?_of_isPlain {token : Token} (plain : IsPlain token) : opened? token = none := by
  unfold opened?
  rw [List.find?_eq_none]
  intro shape _
  simpa using (plain shape).1.symm

theorem closed?_of_isPlain {token : Token} (plain : IsPlain token) : closed? token = none := by
  unfold closed?
  rw [List.find?_eq_none]
  intro shape _
  simpa using (plain shape).2.symm

/-- A token is a bracket of one shape or no bracket. -/
theorem token_cases (token : Token) :
    IsPlain token ∨ (∃ shape : Bracket, token = shape.opener) ∨ ∃ shape : Bracket,
      token = shape.closer := by
  by_cases opens : ∃ shape : Bracket, token = shape.opener
  · exact Or.inr (Or.inl opens)
  · by_cases closes : ∃ shape : Bracket, token = shape.closer
    · exact Or.inr (Or.inr closes)
    · exact Or.inl fun shape =>
        ⟨fun same => opens ⟨shape, same⟩, fun same => closes ⟨shape, same⟩⟩

end Bracket

namespace BracketStack

@[simp]
theorem feed_opener (stack : BracketStack) (shape : Bracket) :
    stack.feed shape.opener = stack.push shape := by
  unfold feed
  rw [Bracket.opened?_opener]

@[simp]
theorem feed_closer (stack : BracketStack) (shape : Bracket) :
    stack.feed shape.closer = stack.pop shape := by
  unfold feed
  rw [Bracket.opened?_closer, Bracket.closed?_closer]

theorem feed_of_isPlain {token : Token} (plain : Bracket.IsPlain token) (stack : BracketStack) :
    stack.feed token = stack := by
  unfold feed
  rw [Bracket.opened?_of_isPlain plain, Bracket.closed?_of_isPlain plain]

@[simp]
theorem pop_push (stack : BracketStack) (shape : Bracket) : (stack.push shape).pop shape = stack := by
  simp [pop, push]

/-- The stack after a run of tokens. -/
def feedAll (stack : BracketStack) (tokens : List Token) : BracketStack :=
  tokens.foldl feed stack

@[simp]
theorem feedAll_nil (stack : BracketStack) : stack.feedAll [] = stack := rfl

@[simp]
theorem feedAll_cons (stack : BracketStack) (token : Token) (rest : List Token) :
    stack.feedAll (token :: rest) = (stack.feed token).feedAll rest := rfl

@[simp]
theorem feedAll_append (stack : BracketStack) (first second : List Token) :
    stack.feedAll (first ++ second) = (stack.feedAll first).feedAll second :=
  List.foldl_append

/-- A stack that has gone wrong stays so. -/
theorem isValid_of_feed {stack : BracketStack} {token : Token}
    (valid : (stack.feed token).isValid = true) : stack.isValid = true := by
  rcases Bracket.token_cases token with plain | ⟨shape, rfl⟩ | ⟨shape, rfl⟩
  · rwa [feed_of_isPlain plain] at valid
  · rwa [feed_opener] at valid
  · rw [feed_closer] at valid
    unfold pop at valid
    split at valid
    · cases valid
    · exact (Bool.and_eq_true_iff.mp valid).1

theorem isValid_of_feedAll {stack : BracketStack} {tokens : List Token}
    (valid : (stack.feedAll tokens).isValid = true) : stack.isValid = true := by
  induction tokens generalizing stack with
  | nil => exact valid
  | cons token rest ih => exact isValid_of_feed (ih valid)

end BracketStack

/-! ### The grammar of balanced streams -/

/-- Every bracket is paired with one of its shape, and pairs do not cross. -/
inductive Balanced : List Token → Prop
  | nil : Balanced []
  | plain {token : Token} {rest : List Token} :
      Bracket.IsPlain token → Balanced rest → Balanced (token :: rest)
  | pair (shape : Bracket) {inner rest : List Token} :
      Balanced inner → Balanced rest → Balanced (shape.opener :: (inner ++ shape.closer :: rest))

namespace Balanced

theorem append {first second : List Token} (left : Balanced first) (right : Balanced second) :
    Balanced (first ++ second) := by
  induction left with
  | nil => exact right
  | plain isPlain _ ih => exact plain isPlain ih
  | pair shape inner _ _ ih =>
    rw [List.cons_append, List.append_assoc, List.cons_append]
    exact pair shape inner ih

/-- A balanced stream leaves every stack as it is. -/
theorem feedAll {tokens : List Token} (balanced : Balanced tokens) (stack : BracketStack) :
    stack.feedAll tokens = stack := by
  induction balanced generalizing stack with
  | nil => rfl
  | plain isPlain _ ih => rw [BracketStack.feedAll_cons, BracketStack.feed_of_isPlain isPlain, ih]
  | pair shape _ _ inner rest =>
    rw [BracketStack.feedAll_cons, BracketStack.feed_opener, BracketStack.feedAll_append, inner,
      BracketStack.feedAll_cons, BracketStack.feed_closer, BracketStack.pop_push, rest]

end Balanced

/-- Balanced streams with the closing brackets of open ones between them, innermost first. -/
inductive Closes : List Bracket → List Token → Prop
  | done {tokens : List Token} : Balanced tokens → Closes [] tokens
  | close {shape : Bracket} {openers : List Bracket} {inner rest : List Token} :
      Balanced inner → Closes openers rest →
        Closes (shape :: openers) (inner ++ shape.closer :: rest)

namespace Closes

/-- A balanced stream may be put before one that closes brackets. -/
theorem prepend {openers : List Bracket} {first tokens : List Token} (balanced : Balanced first)
    (closes : Closes openers tokens) : Closes openers (first ++ tokens) := by
  cases closes with
  | done rest => exact done (balanced.append rest)
  | close inner rest =>
    rw [← List.append_assoc]
    exact close (balanced.append inner) rest

/-- **A stack that ends balanced has closed what was open**, with balanced streams in between. -/
theorem of_feedAll {openers : List Bracket} {tokens : List Token}
    (balanced : ((BracketStack.mk openers true).feedAll tokens).isBalanced = true) :
    Closes openers tokens := by
  induction tokens generalizing openers with
  | nil =>
    cases openers with
    | nil => exact done Balanced.nil
    | cons shape openers => cases balanced
  | cons token rest ih =>
    rw [BracketStack.feedAll_cons] at balanced
    rcases Bracket.token_cases token with plain | ⟨shape, rfl⟩ | ⟨shape, rfl⟩
    · rw [BracketStack.feed_of_isPlain plain] at balanced
      exact (ih balanced).prepend (Balanced.plain plain Balanced.nil)
    · rw [BracketStack.feed_opener] at balanced
      cases ih balanced with
      | close inner rest =>
        have paired := Balanced.pair shape inner Balanced.nil
        have shifted := rest.prepend paired
        rwa [List.cons_append, List.append_assoc] at shifted
    · rw [BracketStack.feed_closer] at balanced
      have valid := BracketStack.isValid_of_feedAll (Bool.and_eq_true_iff.mp balanced).1
      cases openers with
      | nil => cases valid
      | cons innermost openers =>
        simp only [BracketStack.pop, Bool.true_and, decide_eq_true_eq] at valid balanced
        subst valid
        rw [decide_eq_true rfl] at balanced
        exact close Balanced.nil (ih balanced)

end Closes

/-- **The stack recognises the balanced streams.** -/
theorem balanced_iff_feedAll {tokens : List Token} :
    Balanced tokens ↔ (BracketStack.empty.feedAll tokens).isBalanced = true := by
  constructor
  · intro balanced
    rw [balanced.feedAll]
    rfl
  · intro balanced
    cases Closes.of_feedAll balanced with
    | done balanced => exact balanced

instance (tokens : List Token) : Decidable (Balanced tokens) :=
  decidable_of_iff _ balanced_iff_feedAll.symm

/-! ### Streams that can still be balanced -/

namespace BracketStack

/-- The answers to tokens that are fed one by one. -/
def verdicts (stack : BracketStack) : List Token → List Bool
  | [] => []
  | token :: rest => stack.answer token :: (stack.feed token).verdicts rest

/-- What is open is closed by its closing brackets, innermost first. -/
theorem feedAll_closers (openers : List Bracket) (isValid : Bool) :
    (BracketStack.mk openers isValid).feedAll (openers.map Bracket.closer) = ⟨[], isValid⟩ := by
  induction openers with
  | nil => rfl
  | cons shape openers ih =>
    have popped : (BracketStack.mk (shape :: openers) isValid).pop shape = ⟨openers, isValid⟩ :=
      pop_push ⟨openers, isValid⟩ shape
    rw [List.map_cons, feedAll_cons, feed_closer, popped, ih]

/-- **A stack is valid as long as the stream can still be balanced.** -/
theorem isValid_feedAll_iff {tokens : List Token} :
    (empty.feedAll tokens).isValid = true ↔ ∃ word, Balanced word ∧ tokens <+: word := by
  constructor
  · intro valid
    refine ⟨tokens ++ (empty.feedAll tokens).openers.map Bracket.closer, ?_, List.prefix_append _ _⟩
    rw [balanced_iff_feedAll, feedAll_append, feedAll_closers, valid]
    rfl
  · rintro ⟨word, balanced, rest, rfl⟩
    rw [balanced_iff_feedAll, feedAll_append] at balanced
    exact isValid_of_feedAll (Bool.and_eq_true_iff.mp balanced).1

/-- **Every token is answered by whether the stack is valid behind it.** -/
theorem verdicts_eq (stack : BracketStack) (tokens : List Token) :
    stack.verdicts tokens =
      (List.range tokens.length).map fun index => (stack.feedAll (tokens.take (index + 1))).isValid := by
  induction tokens generalizing stack with
  | nil => rfl
  | cons token rest ih =>
    rw [verdicts, answer_eq, ih, List.length_cons, List.range_succ_eq_map, List.map_cons,
      List.map_map]
    rfl

/-- A stack that has gone wrong answers so to every token. -/
theorem eq_false_of_mem_verdicts {stack : BracketStack} (wrong : stack.isValid = false)
    {tokens : List Token} {verdict : Bool} (member : verdict ∈ stack.verdicts tokens) :
    verdict = false := by
  rw [verdicts_eq] at member
  obtain ⟨index, _, rfl⟩ := List.mem_map.mp member
  rw [Bool.eq_false_iff] at wrong ⊢
  exact mt isValid_of_feedAll wrong

theorem pairwise_verdicts (stack : BracketStack) (tokens : List Token) :
    (stack.verdicts tokens).Pairwise fun earlier later => earlier = false → later = false := by
  induction tokens generalizing stack with
  | nil => exact List.Pairwise.nil
  | cons token rest ih =>
    refine List.pairwise_cons.mpr ⟨?_, ih (stack.feed token)⟩
    intro later member wrong
    rw [answer_eq] at wrong
    exact eq_false_of_mem_verdicts wrong member

end BracketStack

/-- **The stack recognises properly nested brackets.** Behind a stream it is balanced exactly if the
stream is, and valid exactly if the stream is the beginning of a balanced one. Each token is answered
by whether the stack is valid behind it, and once this is denied it is denied for good. -/
theorem stack_recognises_balanced_streams (tokens : List Token) :
    ((BracketStack.empty.feedAll tokens).isBalanced = true ↔ Balanced tokens) ∧
    ((BracketStack.empty.feedAll tokens).isValid = true ↔
      ∃ word, Balanced word ∧ tokens <+: word) ∧
    BracketStack.empty.verdicts tokens = (List.range tokens.length).map (fun index =>
      (BracketStack.empty.feedAll (tokens.take (index + 1))).isValid) ∧
    (BracketStack.empty.verdicts tokens).Pairwise
      fun earlier later => earlier = false → later = false :=
  ⟨balanced_iff_feedAll.symm, BracketStack.isValid_feedAll_iff, BracketStack.verdicts_eq _ tokens,
    BracketStack.pairwise_verdicts _ tokens⟩

/-! ### Counting parentheses -/

/-- With a number of parentheses open before the tokens, none of the tokens closes one that is not
open. -/
def StaysOpen (depth : Nat) (tokens : List Token) : Prop :=
  ∀ initial, initial <+: tokens →
    initial.count Token.closeParen ≤ depth + initial.count Token.openParen

/-- The parentheses pair up: there are as many of either kind, and none closes what is not open. -/
structure Enclosed (tokens : List Token) : Prop where
  staysOpen : StaysOpen 0 tokens
  even : tokens.count Token.openParen = tokens.count Token.closeParen

instance (depth : Nat) (tokens : List Token) : Decidable (StaysOpen depth tokens) :=
  decidable_of_iff (∀ initial ∈ tokens.inits,
      initial.count Token.closeParen ≤ depth + initial.count Token.openParen)
    (forall_congr' fun initial => by rw [List.mem_inits])

instance (tokens : List Token) : Decidable (Enclosed tokens) :=
  decidable_of_iff (StaysOpen 0 tokens ∧ tokens.count Token.openParen = tokens.count Token.closeParen)
    ⟨fun both => ⟨both.1, both.2⟩, fun enclosed => ⟨enclosed.staysOpen, enclosed.even⟩⟩

theorem count_closeParen :
    [Token.closeParen].count Token.openParen = 0 ∧ [Token.closeParen].count Token.closeParen = 1 :=
  ⟨rfl, rfl⟩

theorem count_head_add_count (wanted token : Token) (rest : List Token) :
    (token :: rest).count wanted = [token].count wanted + rest.count wanted := by
  rw [← List.singleton_append, List.count_append]

namespace StaysOpen

theorem nil (depth : Nat) : StaysOpen depth [] := by
  intro initial inside
  rw [List.prefix_nil.mp inside]
  exact Nat.zero_le _

/-- The first token of a stream changes the number of open parentheses for the others. -/
theorem cons_iff {depth : Nat} {token : Token} {rest : List Token} :
    StaysOpen depth (token :: rest) ↔
      ∃ deeper, deeper + [token].count Token.closeParen = depth + [token].count Token.openParen ∧
        StaysOpen deeper rest := by
  constructor
  · intro stays
    have first := stays [token] (List.prefix_append [token] rest)
    refine ⟨depth + [token].count Token.openParen - [token].count Token.closeParen,
      Nat.sub_add_cancel first, ?_⟩
    intro initial inside
    have longer := stays (token :: initial) (List.cons_prefix_cons.mpr ⟨rfl, inside⟩)
    rw [count_head_add_count Token.openParen, count_head_add_count Token.closeParen] at longer
    omega
  · rintro ⟨deeper, level, stays⟩ initial inside
    cases initial with
    | nil => exact Nat.zero_le _
    | cons head initial =>
      obtain ⟨rfl, within⟩ := List.cons_prefix_cons.mp inside
      have shorter := stays initial within
      rw [count_head_add_count Token.openParen, count_head_add_count Token.closeParen]
      omega

/-- One more token may follow if it does not close more than is open. -/
theorem push {depth : Nat} {tokens : List Token} {token : Token} (stays : StaysOpen depth tokens)
    (fits : (tokens ++ [token]).count Token.closeParen ≤
      depth + (tokens ++ [token]).count Token.openParen) :
    StaysOpen depth (tokens ++ [token]) := by
  intro initial inside
  rcases List.prefix_concat_iff.mp inside with rfl | shorter
  · exact fits
  · exact stays initial shorter

end StaysOpen

/-- Counting parentheses either never ends or ends at the first one that closes what is not open.
-/
theorem staysOpen_or_closes (depth : Nat) (tokens : List Token) :
    StaysOpen depth tokens ∨ ∃ inner after, tokens = inner ++ Token.closeParen :: after ∧
      StaysOpen depth inner ∧
        depth + inner.count Token.openParen = inner.count Token.closeParen := by
  induction tokens generalizing depth with
  | nil => exact Or.inl (StaysOpen.nil depth)
  | cons token rest ih =>
    by_cases fits : [token].count Token.closeParen ≤ depth + [token].count Token.openParen
    · have level := Nat.sub_add_cancel fits
      rcases ih (depth + [token].count Token.openParen - [token].count Token.closeParen) with
        stays | ⟨inner, after, rfl, stays, even⟩
      · exact Or.inl (StaysOpen.cons_iff.mpr ⟨_, level, stays⟩)
      · refine Or.inr ⟨token :: inner, after, rfl, StaysOpen.cons_iff.mpr ⟨_, level, stays⟩, ?_⟩
        rw [count_head_add_count Token.openParen, count_head_add_count Token.closeParen]
        omega
    · have closing : token = Token.closeParen := by
        by_contra other
        rw [List.count_singleton, if_neg (by simpa using other)] at fits
        exact fits (Nat.zero_le _)
      subst closing
      rw [count_closeParen.1, count_closeParen.2] at fits
      refine Or.inr ⟨[], rest, rfl, StaysOpen.nil depth, ?_⟩
      show depth + 0 = 0
      omega

namespace Enclosed

/-- A parenthesis that closes what is not open ends the counting. -/
theorem not_prefix {inner tokens : List Token} (enclosed : Enclosed inner)
    (stays : StaysOpen 0 tokens) : ¬ inner ++ [Token.closeParen] <+: tokens := by
  intro inside
  have bound := stays _ inside
  rw [List.count_append, List.count_append, count_closeParen.1, count_closeParen.2,
    enclosed.even] at bound
  omega

/-- Counting can end at one place only. -/
theorem unique {first second firstAfter secondAfter : List Token} (left : Enclosed first)
    (right : Enclosed second)
    (same : first ++ Token.closeParen :: firstAfter = second ++ Token.closeParen :: secondAfter) :
    first = second ∧ firstAfter = secondAfter := by
  rcases List.append_eq_append_iff.mp same with ⟨middle, longer, next⟩ | ⟨middle, longer, next⟩
  · cases middle with
    | nil =>
      rw [List.append_nil] at longer
      exact ⟨longer.symm, (List.cons.inj next).2⟩
    | cons token middle =>
      refine absurd ⟨middle, ?_⟩ (left.not_prefix right.staysOpen)
      rw [longer, (List.cons.inj next).1, List.append_assoc, List.singleton_append]
  · cases middle with
    | nil =>
      rw [List.append_nil] at longer
      exact ⟨longer, (List.cons.inj next).2.symm⟩
    | cons token middle =>
      refine absurd ⟨middle, ?_⟩ (right.not_prefix left.staysOpen)
      rw [longer, (List.cons.inj next).1, List.append_assoc, List.singleton_append]

end Enclosed

/-! ### The two ways of pairing -/

namespace Balanced

/-- Opening brackets close no parenthesis, and closing ones open none. A shape opens as many
parentheses as it closes. -/
theorem count_brackets (shape : Bracket) :
    [shape.opener].count Token.closeParen = 0 ∧ [shape.closer].count Token.openParen = 0 ∧
      [shape.opener].count Token.openParen = [shape.closer].count Token.closeParen := by
  cases shape <;> decide

theorem count_of_isPlain {token : Token} (isPlain : Bracket.IsPlain token) :
    [token].count Token.openParen = 0 ∧ [token].count Token.closeParen = 0 := by
  obtain ⟨opens, closes⟩ := isPlain .round
  exact ⟨List.count_eq_zero.mpr fun member => opens (List.mem_singleton.mp member).symm,
    List.count_eq_zero.mpr fun member => closes (List.mem_singleton.mp member).symm⟩

/-- A balanced stream leaves the number of open parentheses as it is. -/
theorem staysOpen_append {tokens rest : List Token} {depth : Nat} (balanced : Balanced tokens)
    (stays : StaysOpen depth rest) : StaysOpen depth (tokens ++ rest) := by
  induction balanced generalizing depth rest with
  | nil => exact stays
  | plain isPlain _ ih =>
    obtain ⟨opens, closes⟩ := count_of_isPlain isPlain
    exact StaysOpen.cons_iff.mpr ⟨depth, by rw [opens, closes], ih stays⟩
  | pair shape _ _ inner others =>
    obtain ⟨closesNone, opensNone, even⟩ := count_brackets shape
    rw [List.cons_append, List.append_assoc, List.cons_append]
    refine StaysOpen.cons_iff.mpr ⟨depth + [shape.opener].count Token.openParen, ?_, inner ?_⟩
    · rw [closesNone, Nat.add_zero]
    · exact StaysOpen.cons_iff.mpr ⟨depth, by rw [opensNone, even, Nat.add_zero], others stays⟩

theorem count_eq {tokens : List Token} (balanced : Balanced tokens) :
    tokens.count Token.openParen = tokens.count Token.closeParen := by
  induction balanced with
  | nil => rfl
  | @plain token rest isPlain _ ih =>
    obtain ⟨opens, closes⟩ := count_of_isPlain isPlain
    rw [count_head_add_count Token.openParen, count_head_add_count Token.closeParen, opens, closes,
      ih]
  | @pair shape inner rest _ _ innerEven restEven =>
    obtain ⟨closesNone, opensNone, even⟩ := count_brackets shape
    rw [count_head_add_count Token.openParen, count_head_add_count Token.closeParen,
      List.count_append, List.count_append, count_head_add_count Token.openParen shape.closer,
      count_head_add_count Token.closeParen shape.closer]
    omega

/-- The parentheses of a balanced stream pair up by counting too. -/
theorem enclosed {tokens : List Token} (balanced : Balanced tokens) : Enclosed tokens where
  staysOpen := by
    have stays := balanced.staysOpen_append (StaysOpen.nil 0)
    rwa [List.append_nil] at stays
  even := balanced.count_eq

/-- Each opening parenthesis of a balanced stream has a partner, with a balanced stream between
them. -/
theorem exists_partner {before after : List Token}
    (balanced : Balanced (before ++ Token.openParen :: after)) :
    ∃ inner rest, after = inner ++ Token.closeParen :: rest ∧ Balanced inner := by
  rw [balanced_iff_feedAll, BracketStack.feedAll_append, BracketStack.feedAll_cons] at balanced
  have valid := BracketStack.isValid_of_feed
    (BracketStack.isValid_of_feedAll (Bool.and_eq_true_iff.mp balanced).1)
  generalize BracketStack.empty.feedAll before = stack at balanced valid
  obtain ⟨openers, isValid⟩ := stack
  subst valid
  rw [show Token.openParen = Bracket.round.opener from rfl, BracketStack.feed_opener] at balanced
  cases Closes.of_feedAll balanced with
  | close inner rest => exact ⟨_, _, rfl, inner⟩

/-- **Counting finds the partner.** Where counting from an opening parenthesis of a balanced stream
ends, it has passed over a balanced stream. -/
theorem of_enclosed {before inner rest : List Token}
    (balanced : Balanced (before ++ Token.openParen :: (inner ++ Token.closeParen :: rest)))
    (counted : Enclosed inner) : Balanced inner := by
  obtain ⟨partnered, others, same, balancedInner⟩ := balanced.exists_partner
  obtain ⟨rfl, _⟩ := counted.unique balancedInner.enclosed same
  exact balancedInner

/-- Counting from an opening parenthesis of a balanced stream ends. -/
theorem not_staysOpen {before after : List Token}
    (balanced : Balanced (before ++ Token.openParen :: after)) : ¬ StaysOpen 0 after := by
  intro stays
  obtain ⟨inner, rest, rfl, balancedInner⟩ := balanced.exists_partner
  refine balancedInner.enclosed.not_prefix stays ⟨rest, ?_⟩
  rw [List.append_assoc, List.singleton_append]

end Balanced

end MessageHarvest
