/-
**Chains of literals.**

A chain is a string, followed by any number of strings and numbers with a dot before each. It spells
the values of its strings and the texts of its numbers, one after the other. The value of a group of
tokens is what the chain at its head spells, where the chain ends before a token that is no dot.

* `Literal.Chain` — the chains and what they spell.
* `Literal.IsLongestChain` — the chain at the head of a stream that no other one there exceeds.
* `Literal.exists_chain_of_value?` — a group with a value begins with a chain that spells it.
* `Literal.value?_eq_of_dotted` — what follows the end of a chain does not count.
* `literal_value_grammar` — the groups that have a value, and the value of each.
-/

import Mathlib.Data.List.Infix
import MessageHarvest.Literal

namespace MessageHarvest

namespace Literal

/-- Strings and numbers with a dot before each, and the text that they spell. -/
inductive Operands : List Token → String → Prop
  | nil : Operands [] ""
  | string {operand : Token} {rest : List Token} {text : String} :
      operand.isStringLiteral = true → Operands rest text →
        Operands (Token.dot :: operand :: rest) (unescape (stripQuotes operand.text) ++ text)
  | number {operand : Token} {rest : List Token} {text : String} :
      operand.isNumberLiteral = true → Operands rest text →
        Operands (Token.dot :: operand :: rest) (operand.text ++ text)

/-- A string followed by operands, and the text that they spell together. -/
inductive Chain : List Token → String → Prop
  | intro {first : Token} {rest : List Token} {text : String} :
      first.isStringLiteral = true → Operands rest text →
        Chain (first :: rest) (unescape (stripQuotes first.text) ++ text)

/-- The chain at the head of a stream, as long as it can be. -/
structure IsLongestChain (tokens chain : List Token) (text : String) : Prop where
  isChain : Chain chain text
  atHead : chain <+: tokens
  longest : ∀ other otherText, other <+: tokens → Chain other otherText → other.length ≤ chain.length

/-! ### Where a chain ends -/

/-- What may follow operands among operands starts with a dot. -/
theorem Operands.head?_of_append {first second : List Token} {firstText text : String}
    (operands : Operands first firstText) (all : Operands (first ++ second) text) :
    second = [] ∨ second.head? = some Token.dot := by
  induction operands generalizing text with
  | nil =>
    cases all with
    | nil => exact Or.inl rfl
    | string _ _ => exact Or.inr rfl
    | number _ _ => exact Or.inr rfl
  | string _ _ ih =>
    cases all with
    | string _ rest => exact ih rest
    | number _ rest => exact ih rest
  | number _ _ ih =>
    cases all with
    | string _ rest => exact ih rest
    | number _ rest => exact ih rest

theorem Chain.head?_of_append {first second : List Token} {firstText text : String}
    (chain : Chain first firstText) (all : Chain (first ++ second) text) :
    second = [] ∨ second.head? = some Token.dot := by
  cases chain with
  | intro _ operands =>
    cases all with
    | intro _ others => exact operands.head?_of_append others

/-- A chain before a token that is no dot cannot be longer. -/
theorem Chain.isLongestChain {chain rest : List Token} {text : String} {terminator : Token}
    (isChain : Chain chain text) (ends : terminator ≠ Token.dot) :
    IsLongestChain (chain ++ terminator :: rest) chain text where
  isChain := isChain
  atHead := List.prefix_append _ _
  longest := by
    intro other otherText atHead otherChain
    rcases List.prefix_or_prefix_of_prefix atHead (List.prefix_append chain (terminator :: rest)) with
      shorter | ⟨more, rfl⟩
    · exact shorter.length_le
    · rcases isChain.head?_of_append otherChain with rfl | dotted
      · rw [List.append_nil]
      · have next := (List.prefix_append_right_inj chain).mp atHead
        cases more with
        | nil => rw [List.append_nil]
        | cons token more =>
          have same := (List.cons_prefix_cons.mp next).1
          exact absurd (same.symm.trans (Option.some.inj dotted)) ends

/-! ### The value of a group -/

theorem Operands.of_operandValue? {operand : Token} {rest : List Token} {value text : String}
    (isOperand : operandValue? operand = some value) (operands : Operands rest text) :
    Operands (Token.dot :: operand :: rest) (value ++ text) := by
  unfold operandValue? at isOperand
  split at isOperand
  · rename_i isString
    cases isOperand
    exact Operands.string isString operands
  · rw [Option.ite_none_right_eq_some] at isOperand
    obtain ⟨isNumber, same⟩ := isOperand
    cases same
    exact Operands.number isNumber operands

theorem exists_operands_of_joinedValue? {tokens : List Token} {text : String}
    (joined : joinedValue? tokens = some text) :
    ∃ operands tail, tokens = operands ++ tail ∧ Operands operands text ∧
      tail.head? ≠ some Token.dot := by
  fun_induction joinedValue? tokens generalizing text with
  | case1 =>
    cases joined
    exact ⟨[], [], rfl, Operands.nil, by simp⟩
  | case2 => cases joined
  | case3 operand rest ih =>
    simp only [Option.bind_eq_bind, Option.bind_eq_some_iff] at joined
    obtain ⟨value, operandValue, others, joinedRest, same⟩ := joined
    cases same
    obtain ⟨operands, tail, rfl, spelled, ends⟩ := ih joinedRest
    refine ⟨Token.dot :: operand :: operands, tail, rfl, ?_, ends⟩
    exact Operands.of_operandValue? operandValue spelled
  | case4 first rest other =>
    cases joined
    refine ⟨[], first :: rest, rfl, Operands.nil, ?_⟩
    exact fun dotted => other (Option.some.inj dotted)

/-- **A group with a value begins with a chain that spells it**, and no dot follows the chain. -/
theorem exists_chain_of_value? {group : List Token} {text : String}
    (resolves : value? group = some text) :
    ∃ chain tail, Token.significant group = chain ++ tail ∧ Chain chain text ∧
      tail.head? ≠ some Token.dot := by
  unfold value? at resolves
  split at resolves
  · cases resolves
  · rename_i first rest tokens
    rw [Option.ite_none_right_eq_some] at resolves
    obtain ⟨isString, joined⟩ := resolves
    obtain ⟨others, joinedRest, rfl⟩ := Option.map_eq_some_iff.mp joined
    obtain ⟨operands, tail, rfl, spelled, ends⟩ := exists_operands_of_joinedValue? joinedRest
    exact ⟨first :: operands, tail, tokens, Chain.intro isString spelled, ends⟩

/-! ### Which groups have a value -/

/-- What a string or a number spells: the value of the string, or the number as it is written. -/
def spelling (operand : Token) : String :=
  if operand.isStringLiteral then unescape (stripQuotes operand.text) else operand.text

/-- Tokens with a dot before each. -/
def dotted (operands : List Token) : List Token :=
  operands.flatMap fun operand => [Token.dot, operand]

/-- The stream starts with a string, behind which stand strings and numbers with a dot before each,
and no dot stands behind these. The text is what they spell together. -/
def Denotes (tokens : List Token) (text : String) : Prop :=
  ∃ first operands tail,
    tokens = first :: (dotted operands ++ tail) ∧
    first.isStringLiteral = true ∧
    (∀ operand ∈ operands, operand.isStringLiteral = true ∨ operand.isNumberLiteral = true) ∧
    tail.head? ≠ some Token.dot ∧
    text = String.join ((first :: operands).map spelling)

theorem dotted_cons (operand : Token) (operands : List Token) :
    dotted (operand :: operands) = Token.dot :: operand :: dotted operands := rfl

theorem isNumberLiteral_of_isStringLiteral {operand : Token}
    (isString : operand.isStringLiteral = true) : operand.isNumberLiteral = false := by
  cases operand with
  | punctuation _ => rfl
  | lexeme kind _ _ =>
    obtain rfl : kind = Kind.string := of_decide_eq_true isString
    rfl

theorem spelling_of_isNumberLiteral {operand : Token}
    (isNumber : operand.isNumberLiteral = true) : spelling operand = operand.text := by
  refine if_neg fun isString => ?_
  rw [isNumberLiteral_of_isStringLiteral isString] at isNumber
  cases isNumber

theorem operandValue?_of_literal {operand : Token}
    (literal : operand.isStringLiteral = true ∨ operand.isNumberLiteral = true) :
    operandValue? operand = some (spelling operand) := by
  unfold operandValue?
  split
  · rename_i isString
    rw [spelling, if_pos isString, stringValue]
  · rename_i notString
    rw [if_pos (literal.resolve_left notString), spelling, if_neg notString]

theorem joinedValue?_of_head? {tail : List Token} (ends : tail.head? ≠ some Token.dot) :
    joinedValue? tail = some "" := by
  cases tail with
  | nil => rfl
  | cons token tail =>
    unfold joinedValue?
    exact if_neg fun same => ends (congrArg some same)

/-- What stands behind operands is read only if it starts with a dot. -/
theorem joinedValue?_dotted_append (operands : List Token) {tail : List Token}
    (ends : tail.head? ≠ some Token.dot) :
    joinedValue? (dotted operands ++ tail) = joinedValue? (dotted operands) := by
  induction operands with
  | nil => exact joinedValue?_of_head? ends
  | cons operand operands ih =>
    rw [dotted_cons, List.cons_append, List.cons_append, joinedValue?, joinedValue?, ih]

theorem joinedValue?_dotted {operands : List Token}
    (literals : ∀ operand ∈ operands,
      operand.isStringLiteral = true ∨ operand.isNumberLiteral = true) :
    joinedValue? (dotted operands) = some (String.join (operands.map spelling)) := by
  induction operands with
  | nil => rfl
  | cons operand operands ih =>
    obtain ⟨literal, others⟩ := List.forall_mem_cons.mp literals
    rw [dotted_cons, joinedValue?, if_pos rfl, operandValue?_of_literal literal, ih others,
      List.map_cons, String.join_cons]
    rfl

theorem Operands.exists_dotted {tokens : List Token} {text : String}
    (spelled : Operands tokens text) :
    ∃ operands, tokens = dotted operands ∧
      (∀ operand ∈ operands, operand.isStringLiteral = true ∨ operand.isNumberLiteral = true) ∧
      text = String.join (operands.map spelling) := by
  induction spelled with
  | nil => exact ⟨[], rfl, nofun, rfl⟩
  | @string operand _ _ isString _ ih =>
    obtain ⟨operands, rfl, literals, rfl⟩ := ih
    refine ⟨operand :: operands, rfl, List.forall_mem_cons.mpr ⟨Or.inl isString, literals⟩, ?_⟩
    rw [List.map_cons, String.join_cons, spelling, if_pos isString]
  | @number operand _ _ isNumber _ ih =>
    obtain ⟨operands, rfl, literals, rfl⟩ := ih
    refine ⟨operand :: operands, rfl, List.forall_mem_cons.mpr ⟨Or.inr isNumber, literals⟩, ?_⟩
    rw [List.map_cons, String.join_cons, spelling_of_isNumberLiteral isNumber]

theorem value?_of_significant {group rest : List Token} {first : Token}
    (tokens : Token.significant group = first :: rest) :
    value? group = if first.isStringLiteral then
      (joinedValue? rest).map (stringValue first.text ++ ·) else none := by
  rw [value?, tokens]

/-- **What follows the end of a chain does not count**: groups that agree up to the first token where
a dot is missing have the same value, or none of them has one. -/
theorem value?_eq_of_dotted {group other operands tail otherTail : List Token} {first : Token}
    (tokens : Token.significant group = first :: (dotted operands ++ tail))
    (otherTokens : Token.significant other = first :: (dotted operands ++ otherTail))
    (ends : tail.head? ≠ some Token.dot) (otherEnds : otherTail.head? ≠ some Token.dot) :
    value? group = value? other := by
  rw [value?_of_significant tokens, value?_of_significant otherTokens,
    joinedValue?_dotted_append operands ends, joinedValue?_dotted_append operands otherEnds]

theorem value?_eq_some_iff {group : List Token} {text : String} :
    value? group = some text ↔ Denotes (Token.significant group) text := by
  constructor
  · intro resolves
    obtain ⟨chain, tail, tokens, isChain, ends⟩ := exists_chain_of_value? resolves
    cases isChain with
    | @intro first rest others isString spelled =>
      obtain ⟨operands, rfl, literals, rfl⟩ := spelled.exists_dotted
      refine ⟨first, operands, tail, tokens, isString, literals, ends, ?_⟩
      rw [List.map_cons, String.join_cons, spelling, if_pos isString]
  · rintro ⟨first, operands, tail, tokens, isString, literals, ends, rfl⟩
    rw [value?_of_significant tokens, if_pos isString, joinedValue?_dotted_append operands ends,
      joinedValue?_dotted literals, Option.map_some, List.map_cons, String.join_cons, spelling,
      if_pos isString, stringValue]

end Literal

/-- **Which groups are literals.** A group has a value exactly if its tokens without trivia are a
string, then strings and numbers with a dot before each, and then nothing or a token that is no dot.
The value is what the string and the others spell, one after the other. Every other group has none.
Two groups that agree up to the first token where a dot is missing have the same value, if any,
whatever comes after it. -/
theorem literal_value_grammar (group : List Token) :
    (∀ text, Literal.value? group = some text ↔
      Literal.Denotes (Token.significant group) text) ∧
    (Literal.value? group = none ↔ ∀ text, ¬ Literal.Denotes (Token.significant group) text) ∧
    ∀ (other operands tail otherTail : List Token) (first : Token),
      Token.significant group = first :: (Literal.dotted operands ++ tail) →
      Token.significant other = first :: (Literal.dotted operands ++ otherTail) →
      tail.head? ≠ some Token.dot → otherTail.head? ≠ some Token.dot →
        Literal.value? group = Literal.value? other := by
  refine ⟨fun text => Literal.value?_eq_some_iff, ?_, ?_⟩
  · rw [Option.eq_none_iff_forall_ne_some]
    exact forall_congr' fun text => not_congr Literal.value?_eq_some_iff
  · intro other operands tail otherTail first tokens otherTokens ends otherEnds
    exact Literal.value?_eq_of_dotted tokens otherTokens ends otherEnds

/-- A string with a number joined to it, among blanks and a comment. -/
def priceTokens : List Token :=
  [.lexeme Kind.whitespace " " 1, .lexeme Kind.string "'it\\'s \\x24'" 1, Token.dot,
    .lexeme Kind.comment "/* . */" 1, .lexeme Kind.float "1.50" 1]

/-- The value ends with the group, or before a string that no dot joins to it, whatever follows. -/
theorem priceTokens_value :
    Literal.value? priceTokens = some "it's $1.50" ∧
      Literal.value? (priceTokens ++ [.lexeme Kind.string "'a'" 2, Token.dot]) =
        some "it's $1.50" := by
  have denotes : Literal.Denotes (Token.significant priceTokens) "it's $1.50" := by
    refine ⟨.lexeme Kind.string "'it\\'s \\x24'" 1, [.lexeme Kind.float "1.50" 1], [], ?_⟩
    decide +kernel
  have value := ((literal_value_grammar priceTokens).1 _).mpr denotes
  refine ⟨value, Eq.trans ?_ value⟩
  exact (literal_value_grammar _).2.2 priceTokens [.lexeme Kind.float "1.50" 1]
    [.lexeme Kind.string "'a'" 2, Token.dot] [] (.lexeme Kind.string "'it\\'s \\x24'" 1)
    (by decide) (by decide) (by decide) (by decide)

end MessageHarvest
