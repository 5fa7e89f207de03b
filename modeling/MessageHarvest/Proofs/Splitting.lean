/-
**Splitting arguments into groups.**

Commas outside every bracket separate the groups of a call's arguments. Put together again with
commas, the groups give the arguments back, and each of them is balanced: a bracket never reaches
over a comma that separates.

* `Groups.joined_of_split?` — the groups, joined by commas, are the arguments.
* `Groups.balanced_of_split?` — every group is balanced.
* `Groups.isSome_split?_iff` — the arguments can be split exactly if they are balanced.
* `Groups.split?_joined` — balanced groups without commas of their own are found again.
* `Groups.split?_eq_some_iff` — the groups are the only ones that can be joined to the arguments.
* `splitting_inverts_joining` — the two directions together.
-/

import MessageHarvest.Arguments
import MessageHarvest.Proofs.Nesting

namespace MessageHarvest

theorem isPlain_comma : Bracket.IsPlain Token.comma := by
  intro shape
  cases shape <;> decide

namespace Groups

/-- The groups with commas between them. -/
def joined (groups : Groups) : List Token :=
  groups.first ++ groups.others.flatMap fun group => Token.comma :: group

theorem joined_eq_intercalate (groups : Groups) :
    groups.joined = [Token.comma].intercalate groups.toList := by
  obtain ⟨first, others⟩ := groups
  induction others generalizing first with
  | nil => simp [joined, toList]
  | cons second others ih =>
    show first ++ Token.comma :: (Groups.mk second others).joined = _
    rw [ih, toList, toList, List.intercalate_cons_cons, List.append_assoc, List.singleton_append]

theorem joined_consToken (token : Token) (groups : Groups) :
    (groups.consToken token).joined = token :: groups.joined := rfl

theorem joined_consEmpty (groups : Groups) : groups.consEmpty.joined = Token.comma :: groups.joined :=
  rfl

theorem splitAfter?_nil_eq_some {stack : BracketStack} {groups : Groups}
    (splits : splitAfter? stack [] = some groups) : stack.isBalanced = true ∧ groups = empty := by
  rw [splitAfter?, Option.ite_none_right_eq_some] at splits
  obtain ⟨balanced, same⟩ := splits
  exact ⟨balanced, (Option.some.inj same).symm⟩

/-- **What the first token does to the groups**: it separates a group or it belongs to the first one.
-/
theorem splitAfter?_cons_eq_some {stack : BracketStack} {token : Token} {rest : List Token}
    {groups : Groups} (splits : splitAfter? stack (token :: rest) = some groups) :
    (stack.isEmpty = true ∧ token = Token.comma ∧
      ∃ others, splitAfter? stack rest = some others ∧ groups = others.consEmpty) ∨
    ¬ (stack.isEmpty = true ∧ token = Token.comma) ∧
      ∃ others, splitAfter? (stack.feed token) rest = some others ∧ groups = others.consToken token := by
  unfold splitAfter? at splits
  split at splits
  · rename_i separates
    obtain ⟨others, splitRest, rfl⟩ := Option.map_eq_some_iff.mp splits
    exact Or.inl ⟨separates.1, separates.2, others, splitRest, rfl⟩
  · rename_i inside
    rw [Option.ite_none_right_eq_some] at splits
    obtain ⟨others, splitRest, rfl⟩ := Option.map_eq_some_iff.mp splits.2
    exact Or.inr ⟨inside, others, splitRest, rfl⟩

theorem joined_of_splitAfter? {stack : BracketStack} {tokens : List Token} {groups : Groups}
    (splits : splitAfter? stack tokens = some groups) : groups.joined = tokens := by
  induction tokens generalizing stack groups with
  | nil =>
    obtain ⟨_, rfl⟩ := splitAfter?_nil_eq_some splits
    rfl
  | cons token rest ih =>
    rcases splitAfter?_cons_eq_some splits with
      ⟨_, rfl, others, splitRest, rfl⟩ | ⟨_, others, splitRest, rfl⟩
    · rw [joined_consEmpty, ih splitRest]
    · rw [joined_consToken, ih splitRest]

/-- **The groups, joined by commas, are the arguments.** -/
theorem joined_of_split? {tokens : List Token} {groups : Groups}
    (splits : split? tokens = some groups) : groups.joined = tokens :=
  joined_of_splitAfter? splits

/-- The first group closes what a stack holds open; the others start and end with nothing open. -/
theorem isBalanced_of_splitAfter? {stack : BracketStack} {tokens : List Token} {groups : Groups}
    (splits : splitAfter? stack tokens = some groups) :
    (stack.feedAll groups.first).isBalanced = true ∧
      ∀ group ∈ groups.others, (BracketStack.empty.feedAll group).isBalanced = true := by
  induction tokens generalizing stack groups with
  | nil =>
    obtain ⟨balanced, rfl⟩ := splitAfter?_nil_eq_some splits
    exact ⟨balanced, fun group impossible => by cases impossible⟩
  | cons token rest ih =>
    rcases splitAfter?_cons_eq_some splits with
      ⟨isEmpty, _, others, splitRest, rfl⟩ | ⟨_, others, splitRest, rfl⟩
    · obtain ⟨first, later⟩ := ih splitRest
      have valid := BracketStack.isValid_of_feedAll (Bool.and_eq_true_iff.mp first).1
      have nothingOpen : stack = BracketStack.empty := by
        obtain ⟨openers, isValid⟩ := stack
        have none : openers = [] := List.isEmpty_iff.mp isEmpty
        subst none valid
        rfl
      refine ⟨Bool.and_eq_true_iff.mpr ⟨valid, isEmpty⟩, ?_⟩
      intro group member
      rcases List.mem_cons.mp member with rfl | member
      · exact nothingOpen ▸ first
      · exact later group member
    · obtain ⟨first, later⟩ := ih splitRest
      exact ⟨first, later⟩

/-- **Every group is balanced.** -/
theorem balanced_of_split? {tokens : List Token} {groups : Groups}
    (splits : split? tokens = some groups) : ∀ group ∈ groups.toList, Balanced group := by
  obtain ⟨first, others⟩ := isBalanced_of_splitAfter? splits
  intro group member
  rcases List.mem_cons.mp member with rfl | member
  · exact balanced_iff_feedAll.mpr first
  · exact balanced_iff_feedAll.mpr (others group member)

theorem isSome_splitAfter? {stack : BracketStack} {tokens : List Token}
    (balanced : (stack.feedAll tokens).isBalanced = true) : (splitAfter? stack tokens).isSome := by
  induction tokens generalizing stack with
  | nil =>
    unfold splitAfter?
    exact Option.isSome_iff_exists.mpr ⟨empty, if_pos balanced⟩
  | cons token rest ih =>
    unfold splitAfter?
    split
    · rename_i separates
      rw [separates.2, BracketStack.feedAll_cons, BracketStack.feed_of_isPlain isPlain_comma]
        at balanced
      rw [Option.isSome_map]
      exact ih balanced
    · rw [BracketStack.feedAll_cons] at balanced
      have valid := BracketStack.isValid_of_feedAll (Bool.and_eq_true_iff.mp balanced).1
      rw [BracketStack.answer_eq, if_pos valid, Option.isSome_map]
      exact ih balanced

/-- Commas between balanced groups keep them balanced. -/
theorem balanced_joined {groups : Groups} (balanced : ∀ group ∈ groups.toList, Balanced group) :
    Balanced groups.joined := by
  refine (balanced _ List.mem_cons_self).append ?_
  have later : ∀ group ∈ groups.others, Balanced group :=
    fun group member => balanced group (List.mem_cons_of_mem _ member)
  generalize groups.others = others at later
  induction others with
  | nil => exact Balanced.nil
  | cons group others ih =>
    rw [List.flatMap_cons]
    refine (Balanced.plain isPlain_comma (later group List.mem_cons_self)).append (ih ?_)
    exact fun other member => later other (List.mem_cons_of_mem _ member)

/-- **Arguments can be split exactly if they are balanced.** -/
theorem isSome_split?_iff {tokens : List Token} : (split? tokens).isSome ↔ Balanced tokens := by
  constructor
  · intro succeeds
    obtain ⟨groups, splits⟩ := Option.isSome_iff_exists.mp succeeds
    rw [← joined_of_split? splits]
    exact balanced_joined (balanced_of_split? splits)
  · exact fun balanced => isSome_splitAfter? (balanced_iff_feedAll.mp balanced)

end Groups

/-! ### Splitting what has been joined -/

/-- No comma of a group stands outside its brackets. -/
def Unseparated (group : List Token) : Prop :=
  ∀ before after, group = before ++ Token.comma :: after → ¬ Balanced before

theorem unseparated_of_not_mem {group : List Token} (absent : Token.comma ∉ group) :
    Unseparated group := by
  intro before after split
  rw [split] at absent
  exact absurd List.mem_append_cons_self absent

/-- A closing bracket behind a balanced stream has no partner. -/
theorem Balanced.not_balanced_append_closer {first rest : List Token} {shape : Bracket}
    (balanced : Balanced first) : ¬ Balanced (first ++ shape.closer :: rest) := by
  intro whole
  have ends := balanced_iff_feedAll.mp whole
  rw [BracketStack.feedAll_append, balanced.feedAll, BracketStack.feedAll_cons,
    BracketStack.feed_closer] at ends
  have valid := BracketStack.isValid_of_feedAll (Bool.and_eq_true_iff.mp ends).1
  cases valid

/-- What follows the opening bracket of a balanced stream starts with a balanced stream and the
bracket's partner. -/
theorem Balanced.exists_partner_of_opener {shape : Bracket} {rest : List Token}
    (balanced : Balanced (shape.opener :: rest)) :
    ∃ inner others, rest = inner ++ shape.closer :: others ∧ Balanced inner := by
  rw [balanced_iff_feedAll, BracketStack.feedAll_cons, BracketStack.feed_opener] at balanced
  cases Closes.of_feedAll balanced with
  | close inner _ => exact ⟨_, _, rfl, inner⟩

/-- The commas between two brackets separate nothing. -/
theorem unseparated_pair (shape : Bracket) {inner : List Token} (balanced : Balanced inner) :
    Unseparated (shape.opener :: (inner ++ [shape.closer])) := by
  intro before after split early
  have notOpener : Token.comma ≠ shape.opener := (isPlain_comma shape).1
  have notCloser : Token.comma ≠ shape.closer := (isPlain_comma shape).2
  cases before with
  | nil => exact notOpener (List.cons.inj split).1.symm
  | cons first before =>
    obtain ⟨rfl, tail⟩ := List.cons.inj split
    -- The comma is none of the two brackets, so that it stands in the inner stream.
    obtain ⟨behind, rfl⟩ : ∃ behind, inner = before ++ Token.comma :: behind := by
      rcases List.append_eq_append_iff.mp tail with ⟨middle, _, last⟩ | ⟨middle, longer, next⟩
      · cases middle with
        | nil => exact absurd (List.cons.inj last).1.symm notCloser
        | cons token middle => simp at last
      · cases middle with
        | nil => exact absurd (List.cons.inj next).1 notCloser
        | cons token middle => exact ⟨middle, (List.cons.inj next).1 ▸ longer⟩
    obtain ⟨paired, others, rfl, balancedPaired⟩ := early.exists_partner_of_opener
    rw [List.append_assoc, List.cons_append] at balanced
    exact balancedPaired.not_balanced_append_closer balanced

namespace Groups

/-- A group that closes what is open, and whose commas stand inside brackets, is put before the first
of the groups that follow it. -/
theorem splitAfter?_append {stack : BracketStack} {group : List Token} (tail : List Token)
    (closes : stack.feedAll group = BracketStack.empty)
    (inside : ∀ before after, group = before ++ Token.comma :: after →
      (stack.feedAll before).isEmpty = false) :
    splitAfter? stack (group ++ tail) =
      (split? tail).map fun groups => { groups with first := group ++ groups.first } := by
  induction group generalizing stack with
  | nil =>
    obtain rfl : stack = BracketStack.empty := closes
    exact (Option.map_id' ..).symm
  | cons token group ih =>
    have kept : ¬ (stack.isEmpty = true ∧ token = Token.comma) := by
      rintro ⟨isEmpty, rfl⟩
      have notEmpty : stack.isEmpty = false := inside [] group rfl
      rw [isEmpty] at notEmpty
      cases notEmpty
    have valid : (stack.feed token).isValid = true := by
      have ends : ((stack.feed token).feedAll group).isValid = true := by
        rw [← BracketStack.feedAll_cons, closes]
        rfl
      exact BracketStack.isValid_of_feedAll ends
    rw [List.cons_append, splitAfter?, if_neg kept, BracketStack.answer_eq, if_pos valid,
      ih closes fun before after split => inside (token :: before) after (by rw [split]; rfl),
      Option.map_map]
    rfl

theorem split?_group_append {group : List Token} (balanced : Balanced group)
    (unseparated : Unseparated group) (tail : List Token) :
    split? (group ++ tail) =
      (split? tail).map fun groups => { groups with first := group ++ groups.first } := by
  refine splitAfter?_append tail (balanced.feedAll _) fun before after split => ?_
  by_contra isEmpty
  have ends : ((BracketStack.empty.feedAll before).feedAll (Token.comma :: after)).isValid = true := by
    rw [← BracketStack.feedAll_append, ← split, balanced.feedAll]
    rfl
  apply unseparated before after split
  exact balanced_iff_feedAll.mpr (Bool.and_eq_true_iff.mpr
    ⟨BracketStack.isValid_of_feedAll ends, by simpa using isEmpty⟩)

/-- **Balanced groups without commas of their own are found again** when they are joined and split.
-/
theorem split?_joined {groups : Groups}
    (wellFormed : ∀ group ∈ groups.toList, Balanced group ∧ Unseparated group) :
    split? groups.joined = some groups := by
  obtain ⟨first, others⟩ := groups
  obtain ⟨balanced, unseparated⟩ := wellFormed first List.mem_cons_self
  induction others generalizing first with
  | nil =>
    rw [joined, split?_group_append balanced unseparated]
    show some (Groups.mk (first ++ []) []) = _
    rw [List.append_nil]
  | cons second others ih =>
    have later := ih second (fun group member => wellFormed group (List.mem_cons_of_mem _ member))
      (wellFormed second (by simp [toList])).1 (wellFormed second (by simp [toList])).2
    rw [joined, split?_group_append balanced unseparated]
    show (split? (Token.comma :: (Groups.mk second others).joined)).map _ = _
    have separated : split? (Token.comma :: (Groups.mk second others).joined) =
        (split? (Groups.mk second others).joined).map consEmpty := rfl
    rw [separated, later]
    show some (Groups.mk (first ++ []) (second :: others)) = _
    rw [List.append_nil]

/-! ### Joining what has been split -/

/-- A comma of the first group stands where some bracket is open, be it one that a stack holds open;
the commas of the others stand inside brackets of their own. -/
theorem commas_inside_of_splitAfter? {stack : BracketStack} {tokens : List Token} {groups : Groups}
    (splits : splitAfter? stack tokens = some groups) :
    (∀ before after, groups.first = before ++ Token.comma :: after →
      (stack.feedAll before).isEmpty = false) ∧
      ∀ group ∈ groups.others, Unseparated group := by
  induction tokens generalizing stack groups with
  | nil =>
    obtain ⟨_, rfl⟩ := splitAfter?_nil_eq_some splits
    refine ⟨fun before after split => ?_, fun group impossible => by cases impossible⟩
    exact absurd split.symm (List.append_ne_nil_of_right_ne_nil before (List.cons_ne_nil _ _))
  | cons token rest ih =>
    rcases splitAfter?_cons_eq_some splits with
      ⟨isEmpty, _, others, splitRest, rfl⟩ | ⟨inside, others, splitRest, rfl⟩
    · obtain ⟨first, later⟩ := ih splitRest
      refine ⟨fun before after split => ?_, fun group member => ?_⟩
      · exact absurd split.symm (List.append_ne_nil_of_right_ne_nil before (List.cons_ne_nil _ _))
      · rcases List.mem_cons.mp member with rfl | member
        · -- The stack is empty where a group starts, and a balanced stream leaves it so.
          intro before after split balanced
          have notEmpty := first before after split
          rw [balanced.feedAll, isEmpty] at notEmpty
          cases notEmpty
        · exact later group member
    · obtain ⟨first, later⟩ := ih splitRest
      refine ⟨fun before after split => ?_, later⟩
      cases before with
      | nil =>
        obtain ⟨rfl, _⟩ := List.cons.inj split
        exact Bool.eq_false_iff.mpr fun isEmpty => inside ⟨isEmpty, rfl⟩
      | cons head before =>
        obtain ⟨rfl, tail⟩ := List.cons.inj split
        exact first before after tail

/-- **No comma of a group stands outside its brackets.** -/
theorem unseparated_of_split? {tokens : List Token} {groups : Groups}
    (splits : split? tokens = some groups) : ∀ group ∈ groups.toList, Unseparated group := by
  obtain ⟨first, others⟩ := commas_inside_of_splitAfter? splits
  intro group member
  rcases List.mem_cons.mp member with rfl | member
  · intro before after split balanced
    have notEmpty := first before after split
    rw [balanced.feedAll] at notEmpty
    cases notEmpty
  · exact others group member

/-- **The groups are the only ones that can be joined to the arguments**, if they have to be balanced
and their commas have to stand inside brackets. -/
theorem split?_eq_some_iff {tokens : List Token} {groups : Groups} :
    split? tokens = some groups ↔
      tokens = [Token.comma].intercalate groups.toList ∧
        ∀ group ∈ groups.toList, Balanced group ∧ Unseparated group := by
  rw [← joined_eq_intercalate]
  constructor
  · intro splits
    refine ⟨(joined_of_split? splits).symm, fun group member => ?_⟩
    exact ⟨balanced_of_split? splits group member, unseparated_of_split? splits group member⟩
  · rintro ⟨rfl, wellFormed⟩
    exact split?_joined wellFormed

end Groups

/-- **Splitting is the inverse of joining.** A stream can be split exactly if it is balanced. It is
split into given groups exactly if it is these groups with commas between them, each of them is
balanced, and no comma of a group stands outside its brackets. So such groups are found again when
they are joined and split, and a stream that has been split is found again when its groups are
joined. -/
theorem splitting_inverts_joining (tokens : List Token) (groups : Groups) :
    ((Groups.split? tokens).isSome ↔ Balanced tokens) ∧
      (Groups.split? tokens = some groups ↔
        tokens = [Token.comma].intercalate groups.toList ∧
          ∀ group ∈ groups.toList, Balanced group ∧ Unseparated group) ∧
      ((∀ group ∈ groups.toList, Balanced group ∧ Unseparated group) →
        Groups.split? ([Token.comma].intercalate groups.toList) = some groups) ∧
      (Groups.split? tokens = some groups → [Token.comma].intercalate groups.toList = tokens) := by
  refine ⟨Groups.isSome_split?_iff, Groups.split?_eq_some_iff, fun wellFormed => ?_, fun splits => ?_⟩
  · exact Groups.split?_eq_some_iff.mpr ⟨rfl, wellFormed⟩
  · exact (Groups.split?_eq_some_iff.mp splits).1.symm

/-- Three groups: one token, a comma between brackets, and nothing. -/
def Groups.bracketedComma : Groups where
  first := [.lexeme Kind.string "'a'" 1]
  others := [[Bracket.square.opener, Token.comma, Bracket.square.closer], []]

/-- The comma between brackets separates nothing, and a comma at the end separates an empty group. -/
theorem bracketedComma_found_again :
    (∀ group ∈ Groups.bracketedComma.toList, Balanced group ∧ Unseparated group) ∧
      Groups.split? [.lexeme Kind.string "'a'" 1, Token.comma, Bracket.square.opener, Token.comma,
        Bracket.square.closer, Token.comma] = some Groups.bracketedComma := by
  have wellFormed : ∀ group ∈ Groups.bracketedComma.toList, Balanced group ∧ Unseparated group := by
    have inside : Balanced [Token.comma] := by decide
    refine List.forall_mem_cons.mpr ⟨⟨by decide, unseparated_of_not_mem (by decide)⟩, ?_⟩
    refine List.forall_mem_cons.mpr ⟨⟨by decide, unseparated_pair .square inside⟩, ?_⟩
    exact List.forall_mem_singleton.mpr ⟨by decide, unseparated_of_not_mem (by decide)⟩
  exact ⟨wellFormed, (splitting_inverts_joining [] Groups.bracketedComma).2.2.1 wellFormed⟩

end MessageHarvest
