/-
**Reading the arguments of a call.**

A capture takes tokens until a parenthesis closes the call. It keeps no stack of brackets: the one thing
that it knows of the tokens taken so far is how many parentheses are open in them. For a stream whose
brackets are balanced this is enough.

* `Capture.closings` — the answers to tokens that are fed one by one.
* `Capture.IsCounted` — the depth counts the parentheses that are open in the buffer.
* `Capture.feedAll_of_staysOpen` — as long as parentheses stay open, every token is taken.
* `capture_finds_closing_parenthesis` — what a capture has taken after any run, and where it ends on a
  balanced stream.
-/

import MessageHarvest.Call
import MessageHarvest.Proofs.Nesting

namespace MessageHarvest

namespace Capture

variable {Position : Type} {capture : Capture Position} {token : Token}

/-! ### One token -/

theorem isClosedBy_eq_true_iff :
    capture.isClosedBy token = true ↔ token = Token.closeParen ∧ capture.depth = 0 := by
  simp [isClosedBy]

theorem feed_of_closed (closes : capture.isClosedBy token = true) : capture.feed token = capture := by
  unfold feed
  rw [if_pos closes]

theorem feed_of_stays (stays : capture.isClosedBy token = false) :
    capture.feed token = { capture with
      buffer := capture.buffer.push token, depth := capture.depthAfter token } := by
  unfold feed
  rw [if_neg (by rw [stays]; decide)]

/-- A token that does not close more parentheses than are open does not close the call. -/
theorem stays_of_fits
    (fits : [token].count Token.closeParen ≤ capture.depth + [token].count Token.openParen) :
    capture.isClosedBy token = false := by
  rw [Bool.eq_false_iff, Ne, isClosedBy_eq_true_iff]
  rintro ⟨rfl, outermost⟩
  rw [count_closeParen.1, count_closeParen.2, outermost] at fits
  exact absurd fits (by decide)

/-- The depth counts a token that does not close the call. -/
theorem depthAfter_add_count (stays : capture.isClosedBy token = false) :
    capture.depthAfter token + [token].count Token.closeParen =
      capture.depth + [token].count Token.openParen := by
  unfold depthAfter
  by_cases closing : token = Token.closeParen
  · subst closing
    have deep : capture.depth ≠ 0 := by
      intro outermost
      rw [isClosedBy_eq_true_iff.mpr ⟨rfl, outermost⟩] at stays
      cases stays
    rw [if_pos rfl, count_closeParen.1, count_closeParen.2]
    omega
  · have none : [token].count Token.closeParen = 0 :=
      List.count_eq_zero.mpr fun member => closing (List.mem_singleton.mp member).symm
    rw [if_neg closing, none]
    by_cases opening : token = Token.openParen
    · subst opening
      rw [if_pos rfl]
      rfl
    · have zero : [token].count Token.openParen = 0 :=
        List.count_eq_zero.mpr fun member => opening (List.mem_singleton.mp member).symm
      rw [if_neg opening, zero]

/-! ### Runs -/

/-- The capture after a run of tokens. -/
def feedAll (capture : Capture Position) (tokens : List Token) : Capture Position :=
  tokens.foldl feed capture

/-- The answers to tokens that are fed one by one: whether each of them closes the call. -/
def closings (capture : Capture Position) : List Token → List Bool
  | [] => []
  | token :: rest => capture.isClosedBy token :: (capture.feed token).closings rest

/-- Those of the tokens that do not close the call when they are fed one by one. -/
def kept (capture : Capture Position) (tokens : List Token) : List Token :=
  ((tokens.zip (capture.closings tokens)).filter fun answered => !answered.2).map Prod.fst

theorem feedAll_cons (capture : Capture Position) (token : Token) (rest : List Token) :
    capture.feedAll (token :: rest) = (capture.feed token).feedAll rest := rfl

theorem feedAll_append (capture : Capture Position) (first second : List Token) :
    capture.feedAll (first ++ second) = (capture.feedAll first).feedAll second :=
  List.foldl_append

theorem closings_append (capture : Capture Position) (first second : List Token) :
    capture.closings (first ++ second) =
      capture.closings first ++ (capture.feedAll first).closings second := by
  induction first generalizing capture with
  | nil => rfl
  | cons token first ih =>
    rw [List.cons_append, closings, closings, ih]
    rfl

theorem kept_cons (capture : Capture Position) (token : Token) (rest : List Token) :
    capture.kept (token :: rest) =
      if capture.isClosedBy token then (capture.feed token).kept rest
      else token :: (capture.feed token).kept rest := by
  unfold kept
  rw [closings, List.zip_cons_cons]
  cases capture.isClosedBy token with
  | true => rfl
  | false => rfl

/-- What does not close the call is buffered. -/
theorem toList_buffer_feedAll (capture : Capture Position) (tokens : List Token) :
    (capture.feedAll tokens).buffer.toList = capture.buffer.toList ++ capture.kept tokens := by
  induction tokens generalizing capture with
  | nil => exact (List.append_nil _).symm
  | cons token rest ih =>
    rw [feedAll_cons, ih, kept_cons]
    cases closes : capture.isClosedBy token with
    | true =>
      rw [feed_of_closed closes]
      rfl
    | false =>
      rw [feed_of_stays closes, Array.toList_push, List.append_assoc]
      rfl

/-- **A token is answered by the end of the call** exactly if it is a closing parenthesis and nothing
is open. -/
theorem closings_getElem?_eq_some_true (capture : Capture Position) (tokens : List Token)
    (index : Nat) :
    (capture.closings tokens)[index]? = some true ↔
      tokens[index]? = some Token.closeParen ∧ (capture.feedAll (tokens.take index)).depth = 0 := by
  induction tokens generalizing capture index with
  | nil => simp [closings]
  | cons token rest ih =>
    cases index with
    | zero =>
      rw [closings, List.getElem?_cons_zero, List.getElem?_cons_zero, Option.some.injEq,
        Option.some.injEq]
      exact isClosedBy_eq_true_iff
    | succ index => exact ih (capture.feed token) index

/-- **The depth counts the parentheses that are open in the buffer**, and in no beginning of the buffer
more are closed than opened. -/
structure IsCounted (capture : Capture Position) : Prop where
  depth_add_count : capture.depth + capture.buffer.toList.count Token.closeParen =
    capture.buffer.toList.count Token.openParen
  staysOpen : StaysOpen 0 capture.buffer.toList

theorem isCounted_new (start : Position) : (new start).IsCounted :=
  ⟨rfl, StaysOpen.nil 0⟩

theorem IsCounted.feed (counted : capture.IsCounted) (token : Token) :
    (capture.feed token).IsCounted := by
  cases closes : capture.isClosedBy token with
  | true =>
    rw [feed_of_closed closes]
    exact counted
  | false =>
    have level : capture.depthAfter token +
        (capture.buffer.toList ++ [token]).count Token.closeParen =
          (capture.buffer.toList ++ [token]).count Token.openParen := by
      have deeper := depthAfter_add_count closes
      have before := counted.depth_add_count
      rw [List.count_append, List.count_append]
      omega
    rw [feed_of_stays closes]
    constructor
    · rw [Array.toList_push]
      exact level
    · rw [Array.toList_push]
      apply counted.staysOpen.push
      omega

theorem IsCounted.feedAll (counted : capture.IsCounted) (tokens : List Token) :
    (capture.feedAll tokens).IsCounted := by
  induction tokens generalizing capture with
  | nil => exact counted
  | cons token rest ih => exact ih (counted.feed token)

/-! ### Parentheses that stay open -/

/-- **While parentheses stay open, every token is taken**, and none closes the call. -/
theorem feedAll_of_staysOpen (capture : Capture Position) {tokens : List Token}
    (stays : StaysOpen capture.depth tokens) :
    capture.closings tokens = List.replicate tokens.length false ∧
      (capture.feedAll tokens).start = capture.start ∧
      (capture.feedAll tokens).buffer.toList = capture.buffer.toList ++ tokens ∧
      (capture.feedAll tokens).depth + tokens.count Token.closeParen =
        capture.depth + tokens.count Token.openParen := by
  induction tokens generalizing capture with
  | nil => exact ⟨rfl, rfl, (List.append_nil _).symm, rfl⟩
  | cons token rest ih =>
    obtain ⟨deeper, level, further⟩ := StaysOpen.cons_iff.mp stays
    have fits : [token].count Token.closeParen ≤ capture.depth + [token].count Token.openParen :=
      level ▸ Nat.le_add_left _ _
    have openCall := stays_of_fits fits
    have counted := depthAfter_add_count openCall
    have fed := feed_of_stays openCall
    have same : deeper = (capture.feed token).depth := by
      rw [fed]
      show deeper = capture.depthAfter token
      omega
    subst same
    obtain ⟨quiet, start, buffer, depth⟩ := ih _ further
    rw [fed] at start buffer depth
    refine ⟨?_, ?_, ?_, ?_⟩
    · rw [closings, openCall, quiet]
      rfl
    · rw [feedAll_cons, fed]
      exact start
    · rw [feedAll_cons, fed, buffer, Array.toList_push, List.append_assoc, List.singleton_append]
    · rw [feedAll_cons, fed, count_head_add_count Token.openParen,
        count_head_add_count Token.closeParen]
      simp only at depth
      omega

/-- Behind parentheses that pair up, a closing one closes the call. -/
theorem isClosedBy_of_enclosed (start : Position) {tokens : List Token} (enclosed : Enclosed tokens) :
    ((new start).feedAll tokens).isClosedBy Token.closeParen = true := by
  obtain ⟨_, _, _, depth⟩ := feedAll_of_staysOpen (new start) enclosed.staysOpen
  have even := enclosed.even
  refine isClosedBy_eq_true_iff.mpr ⟨rfl, ?_⟩
  rw [show (new start).depth = 0 from rfl] at depth
  omega

/-- **The call ends at the first parenthesis behind what pairs up.** -/
theorem feedAll_of_enclosed (start : Position) {tokens : List Token} (enclosed : Enclosed tokens) :
    (new start).closings (tokens ++ [Token.closeParen]) =
        List.replicate tokens.length false ++ [true] ∧
      ((new start).feedAll (tokens ++ [Token.closeParen])).buffer.toList = tokens := by
  obtain ⟨quiet, _, buffer, _⟩ := feedAll_of_staysOpen (new start) enclosed.staysOpen
  have closes := isClosedBy_of_enclosed start enclosed
  constructor
  · rw [closings_append, quiet, closings, closes]
    rfl
  · rw [feedAll_append, feedAll_cons, feed_of_closed closes]
    exact buffer

end Capture

open Capture in
/-- **A capture finds the parenthesis that closes a call.** Whatever is fed to it, its depth is the number
of parentheses open in its buffer, of which no beginning closes more than it opens; the buffer holds
the tokens that did not close the call, and a token closes it exactly if it is a closing parenthesis
fed at depth zero. Behind a stream that leaves a stack of brackets balanced, the next closing
parenthesis is the first one that closes the call, and the buffer is the stream. -/
theorem capture_finds_closing_parenthesis {Position : Type} (start : Position)
    (tokens : List Token) :
    ((new start).feedAll tokens).IsCounted ∧
    ((new start).feedAll tokens).buffer.toList = (new start).kept tokens ∧
    (∀ index, ((new start).closings tokens)[index]? = some true ↔
      tokens[index]? = some Token.closeParen ∧
        ((new start).feedAll (tokens.take index)).depth = 0) ∧
    ((BracketStack.empty.feedAll tokens).isBalanced = true →
      (new start).closings (tokens ++ [Token.closeParen]) =
          List.replicate tokens.length false ++ [true] ∧
        ((new start).feedAll (tokens ++ [Token.closeParen])).buffer.toList = tokens) := by
  refine ⟨(isCounted_new start).feedAll tokens, toList_buffer_feedAll (new start) tokens,
    closings_getElem?_eq_some_true (new start) tokens, ?_⟩
  intro balanced
  exact feedAll_of_enclosed start (balanced_iff_feedAll.mpr balanced).enclosed

/-- The arguments `['a' => (1)], {()}`. -/
def bracketedArguments : List Token :=
  [.punctuation "[", .lexeme Kind.string "'a'" 1, .lexeme Kind.operator "=>" 1, Token.openParen,
    .lexeme Kind.integer "1" 1, Token.closeParen, .punctuation "]", Token.comma,
    .punctuation "\x7b", Token.openParen, Token.closeParen, .punctuation "\x7d"]

open Capture in
/-- Parentheses inside other brackets do not close the call. -/
theorem capture_bracketedArguments :
    (BracketStack.empty.feedAll bracketedArguments).isBalanced = true ∧
    (new 7).closings (bracketedArguments ++ [Token.closeParen]) = List.replicate 12 false ++ [true] ∧
    ((new 7).feedAll (bracketedArguments ++ [Token.closeParen])).buffer.toList =
      bracketedArguments := by
  have balanced : (BracketStack.empty.feedAll bracketedArguments).isBalanced = true := by decide
  obtain ⟨_, _, _, found⟩ := capture_finds_closing_parenthesis 7 bracketedArguments
  exact ⟨balanced, (found balanced).1, (found balanced).2⟩

end MessageHarvest
