/-
**Arguments of a call.**

The tokens between the parentheses of a call are split into groups at the commas that stand outside
every bracket. The first group is the message, the second holds its parameters, and the third names
the category.

* `Groups.split?` — the groups, unless the brackets are not balanced.
* `CallParameters.ofArguments?` — what the first three groups say.
-/

import MessageHarvest.Bracket
import MessageHarvest.Literal

namespace MessageHarvest

/-- One or more groups of tokens. -/
structure Groups where
  first : List Token
  others : List (List Token)
deriving DecidableEq, Repr

namespace Groups

/-- One empty group. -/
def empty : Groups where
  first := []
  others := []

/-- All groups in order. -/
def toList (groups : Groups) : List (List Token) :=
  groups.first :: groups.others

/-- The groups with a token put before the first one. -/
def consToken (token : Token) (groups : Groups) : Groups :=
  { groups with first := token :: groups.first }

/-- The groups behind a new empty one. -/
def consEmpty (groups : Groups) : Groups where
  first := []
  others := groups.toList

/-- The groups of the tokens that follow those that a stack of brackets has seen. -/
def splitAfter? (stack : BracketStack) : List Token → Option Groups
  | [] => if stack.isBalanced then some empty else none
  | token :: rest =>
    if stack.isEmpty ∧ token = Token.comma then
      (splitAfter? stack rest).map consEmpty
    else if stack.answer token then
      (splitAfter? (stack.feed token) rest).map (consToken token)
    else
      none

/-- The groups between the commas outside every bracket, unless the brackets are not balanced. -/
def split? (tokens : List Token) : Option Groups :=
  splitAfter? BracketStack.empty tokens

/-- No group holds more tokens than the stream that was split. -/
theorem length_le_of_splitAfter? {stack : BracketStack} {tokens : List Token} {groups : Groups}
    (splits : splitAfter? stack tokens = some groups) {group : List Token}
    (member : group ∈ groups.toList) : group.length ≤ tokens.length := by
  induction tokens generalizing stack groups group with
  | nil =>
    simp only [splitAfter?, Option.ite_none_right_eq_some, Option.some.injEq] at splits
    obtain ⟨_, rfl⟩ := splits
    simp [toList, empty] at member
    simp [member]
  | cons token rest ih =>
    simp only [splitAfter?] at splits
    split at splits
    · obtain ⟨others, split_rest, rfl⟩ := Option.map_eq_some_iff.mp splits
      rcases List.mem_cons.mp member with rfl | member
      · exact Nat.zero_le _
      · exact Nat.le_succ_of_le (ih split_rest member)
    · simp only [Option.ite_none_right_eq_some] at splits
      obtain ⟨others, split_rest, rfl⟩ := Option.map_eq_some_iff.mp splits.2
      rcases List.mem_cons.mp member with rfl | member
      · exact Nat.succ_le_succ (ih split_rest List.mem_cons_self)
      · exact Nat.le_succ_of_le (ih split_rest (List.mem_cons_of_mem _ member))

/-- No group holds more tokens than the arguments that were split. -/
theorem length_le_of_split? {tokens : List Token} {groups : Groups}
    (splits : split? tokens = some groups) {group : List Token}
    (member : group ∈ groups.toList) : group.length ≤ tokens.length :=
  length_le_of_splitAfter? splits member

end Groups

/-- The meaning of a call's arguments: the literal message and category, where they are literals,
and the tokens of the parameters, where there is a second group. -/
structure CallParameters where
  messageId : Option String
  category : Option String
  parameters : Option (List Token)
deriving DecidableEq, Repr

namespace CallParameters

/-- The meaning of groups by their positions. -/
def ofGroups (groups : Groups) : CallParameters where
  messageId := Literal.value? groups.first
  category := groups.others[1]?.bind Literal.value?
  parameters := groups.others[0]?

/-- The meaning of the tokens between the parentheses of a call, if their brackets are balanced. -/
def ofArguments? (tokens : List Token) : Option CallParameters :=
  (Groups.split? tokens).map ofGroups

/-- Parameters hold no more tokens than the arguments they stand in. -/
theorem length_parameters_le {tokens : List Token} {call : CallParameters} {group : List Token}
    (read : ofArguments? tokens = some call) (parameters : call.parameters = some group) :
    group.length ≤ tokens.length := by
  obtain ⟨groups, splits, rfl⟩ := Option.map_eq_some_iff.mp read
  exact Groups.length_le_of_split? splits (List.mem_cons_of_mem _ (List.mem_of_getElem? parameters))

end CallParameters

end MessageHarvest
