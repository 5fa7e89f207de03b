/-
**Call sites.**

Whatever a scan reports comes from a place of its own in the stream where the pattern is matched and
a parenthesis follows, also if it was found in the parameters of another call. A message is what the
literals behind that parenthesis spell, and a skipped call is a slice of the stream from that place
on.

* `IsCallSite`, `OpensWith`, `IsExtent` — what may be said of a position of a stream.
* `exists_sited_records` — the records of a stream, each with its place, in the order in which they
  stand.
* `scan_entries_have_call_sites` — the same of all that a scan reports.
-/

import Mathlib.Data.List.Pairwise
import MessageHarvest.Proofs.LiteralChain
import MessageHarvest.Proofs.WellBracketed

namespace MessageHarvest

/-! ### Places in a stream -/

/-- A call may stand at a position: the token there is no trivia, and without trivia the stream goes
on from there with a match of the pattern and a parenthesis. -/
def IsCallSite (pattern : Pattern) (stream : List Token) (position : Nat) : Prop :=
  (∃ token, stream[position]? = some token ∧ token.isTrivia = false) ∧
    ∃ lead rest, Token.significant (stream.drop position) = lead ++ Token.openParen :: rest ∧
      List.Forall₂ Token.Same lead pattern.tokens

/-- Behind the parenthesis of a call site stands, trivia aside, a chain of literals that spells a
text. It is the longest chain there. -/
def OpensWith (pattern : Pattern) (stream : List Token) (position : Nat) (text : String) : Prop :=
  ∃ lead rest chain, Token.significant (stream.drop position) = lead ++ Token.openParen :: rest ∧
    List.Forall₂ Token.Same lead pattern.tokens ∧ Literal.IsLongestChain rest chain text

/-- A slice of a stream is a call site up to the parenthesis at which counting from its own
parenthesis ends, or up to the end of the stream if the counting never ends. -/
def IsExtent (pattern : Pattern) (stream : List Token) (start stop : Nat) : Prop :=
  start < stop ∧ stop ≤ stream.length ∧ ∃ lead arguments, IsLead pattern.tokens lead ∧
    ((stream.take stop).drop start =
        lead ++ Token.openParen :: (arguments ++ [Token.closeParen]) ∧ Enclosed arguments ∨
      stop = stream.length ∧ stream.drop start = lead ++ Token.openParen :: arguments ∧
        StaysOpen 0 arguments)

theorem slice_eq (before middle after : List Token) :
    ((before ++ middle ++ after).take (before.length + middle.length)).drop before.length =
      middle := by
  rw [← List.length_append, List.take_left, List.drop_left]

/-- Behind a lead and its parenthesis the stream goes on with what follows. -/
theorem significant_drop_lead (before lead rest : List Token) :
    Token.significant ((before ++ lead ++ Token.openParen :: rest).drop before.length) =
      Token.significant lead ++ Token.openParen :: Token.significant rest := by
  rw [List.append_assoc, List.drop_left, Token.significant_append]
  rfl

/-- A lead with a parenthesis behind it makes a call site. -/
theorem isCallSite_of_isLead {pattern : Pattern} {lead : List Token}
    (isLead : IsLead pattern.tokens lead) (before rest : List Token) :
    IsCallSite pattern (before ++ lead ++ Token.openParen :: rest) before.length := by
  refine ⟨?_, Token.significant lead, Token.significant rest, ?_, isLead.same⟩
  · obtain ⟨token, others, rfl, plain⟩ := isLead.starts
    refine ⟨token, ?_, plain⟩
    simp
  · exact significant_drop_lead before lead rest

/-- Something that is found in a stream, with the position at which it stands and one up to which
nothing else stands. -/
structure Sited (α : Type) where
  found : α
  site : Nat
  stop : Nat

namespace Sited

variable {α β : Type}

/-- The same in a stream that has more tokens in front. -/
def shift (offset : Nat) (sited : Sited α) : Sited α :=
  { sited with site := offset + sited.site, stop := offset + sited.stop }

/-- One of two things stands before the other. -/
def Apart (first second : Sited α) : Prop :=
  first.stop ≤ second.site ∨ second.stop ≤ first.site

instance : Std.Symm (@Apart α) :=
  ⟨fun _ _ => Or.symm⟩

/-- What a partial function makes of it, at the same place. -/
def select (function : α → Option β) (sited : Sited α) : Option (Sited β) :=
  (function sited.found).map fun value => { sited with found := value }

variable {function : α → Option β} {sited : List (Sited α)}

theorem map_found_select : (sited.filterMap (select function)).map found =
    (sited.map found).filterMap function := by
  rw [List.map_filterMap, List.filterMap_map]
  congr 1
  funext entry
  show ((function entry.found).map _).map found = function entry.found
  rw [Option.map_map]
  exact Option.map_id'

theorem exists_of_mem_select {chosen : Sited β} (member : chosen ∈ sited.filterMap (select function)) :
    ∃ entry ∈ sited, function entry.found = some chosen.found ∧ entry.site = chosen.site ∧
      entry.stop = chosen.stop := by
  obtain ⟨entry, inside, selected⟩ := List.mem_filterMap.mp member
  obtain ⟨value, isChosen, rfl⟩ := Option.map_eq_some_iff.mp selected
  exact ⟨entry, inside, isChosen, rfl, rfl⟩

/-- What is in order stays in order if only some of it is chosen. -/
theorem ordered_select (ordered : sited.Pairwise fun first second => first.stop ≤ second.site) :
    (sited.filterMap (select function)).Pairwise fun first second => first.stop ≤ second.site := by
  rw [List.pairwise_filterMap]
  apply ordered.imp
  intro first second le chosen selected other otherSelected
  obtain ⟨_, _, rfl⟩ := Option.map_eq_some_iff.mp selected
  obtain ⟨_, _, rfl⟩ := Option.map_eq_some_iff.mp otherSelected
  exact le

/-- No two things in order have the same site. -/
theorem nodup_sites (ordered : sited.Pairwise fun first second => first.stop ≤ second.site)
    (proper : ∀ entry ∈ sited, entry.site < entry.stop) : (sited.map site).Nodup := by
  unfold List.Nodup
  rw [List.pairwise_map]
  apply ordered.imp_of_mem
  intro first second member _ le
  exact Nat.ne_of_lt (Nat.lt_of_lt_of_le (proper _ member) le)

end Sited

/-! ### Records at their places -/

/-- A record says what stands at its place in the stream. -/
inductive Holds (pattern : Pattern) (stream : List Token) : Sited (Record SkippedCall) → Prop
  | message {before lead rest chain others : List Token} {terminator : Token}
      {category : Option String} {id : String} :
      stream = before ++ lead ++ Token.openParen :: rest → IsLead pattern.tokens lead →
      Token.significant rest = chain ++ terminator :: others → terminator ≠ Token.dot →
      Literal.Chain chain id →
        Holds pattern stream ⟨.message category id, before.length, before.length + 1⟩
  | closed {before lead arguments rest : List Token} :
      stream = before ++ lead ++ Token.openParen :: (arguments ++ Token.closeParen :: rest) →
      IsLead pattern.tokens lead → Enclosed arguments →
        Holds pattern stream
          ⟨.skip (Call.closed (lead ++ Token.openParen :: (arguments ++ [Token.closeParen]))
            arguments).toSkipped, before.length,
            before.length + (lead ++ Token.openParen :: (arguments ++ [Token.closeParen])).length⟩
  | unclosed {before lead arguments : List Token} :
      stream = before ++ lead ++ Token.openParen :: arguments →
      IsLead pattern.tokens lead → StaysOpen 0 arguments →
        Holds pattern stream
          ⟨.skip (Call.unclosed (lead ++ Token.openParen :: arguments)).toSkipped, before.length,
            before.length + (lead ++ Token.openParen :: arguments).length⟩

namespace Holds

variable {pattern : Pattern} {stream : List Token} {sited : Sited (Record SkippedCall)}

/-- A record holds in a longer stream too. Only what is unclosed must not be followed by other
tokens, and in a balanced stream nothing is. -/
theorem within (holds : Holds pattern stream sited) (before after : List Token)
    (safe : after = [] ∨ Balanced stream) :
    Holds pattern (before ++ stream ++ after) (sited.shift before.length) := by
  have apart {earlier : List Token} : (before ++ earlier).length = before.length + earlier.length :=
    List.length_append
  cases holds with
  | @message earlier lead rest chain others terminator category id split isLead tokens ends isChain =>
    have longer : before ++ stream ++ after =
        before ++ earlier ++ lead ++ Token.openParen :: (rest ++ after) := by
      rw [split]
      simp
    have behind : Token.significant (rest ++ after) =
        chain ++ terminator :: (others ++ Token.significant after) := by
      rw [Token.significant_append, tokens, List.append_assoc, List.cons_append]
    have placed : Holds pattern (before ++ stream ++ after) ⟨.message category id, _, _⟩ :=
      message longer isLead behind ends isChain
    rwa [apart, Nat.add_assoc] at placed
  | @closed earlier lead arguments rest split isLead enclosed =>
    have longer : before ++ stream ++ after = before ++ earlier ++ lead ++
        Token.openParen :: (arguments ++ Token.closeParen :: (rest ++ after)) := by
      rw [split]
      simp
    have placed := closed longer isLead enclosed
    rwa [apart, Nat.add_assoc] at placed
  | @unclosed earlier lead arguments split isLead stays =>
    rcases safe with rfl | balanced
    · have longer : before ++ stream ++ [] =
          before ++ earlier ++ lead ++ Token.openParen :: arguments := by
        rw [split]
        simp
      have placed := unclosed longer isLead stays
      rwa [apart, Nat.add_assoc] at placed
    · rw [split] at balanced
      exact absurd stays balanced.not_staysOpen

/-- The place of a record lies inside the stream. -/
theorem bounds (holds : Holds pattern stream sited) :
    sited.site < sited.stop ∧ sited.stop ≤ stream.length := by
  cases holds with
  | message split =>
    rw [split]
    simp only [List.length_append, List.length_cons]
    omega
  | closed split =>
    rw [split]
    simp only [List.length_append, List.length_cons, List.length_nil]
    omega
  | unclosed split =>
    rw [split]
    simp only [List.length_append, List.length_cons]
    omega

theorem isCallSite (holds : Holds pattern stream sited) : IsCallSite pattern stream sited.site := by
  cases holds with
  | message split isLead =>
    rw [split]
    exact isCallSite_of_isLead isLead _ _
  | closed split isLead =>
    rw [split]
    exact isCallSite_of_isLead isLead _ _
  | unclosed split isLead =>
    rw [split]
    exact isCallSite_of_isLead isLead _ _

theorem opensWith {category : Option String} {id : String} {site stop : Nat}
    (holds : Holds pattern stream ⟨.message category id, site, stop⟩) :
    OpensWith pattern stream site id := by
  cases holds with
  | @message before lead rest chain others terminator _ _ split isLead tokens ends isChain =>
    refine ⟨Token.significant lead, chain ++ terminator :: others, chain, ?_, isLead.same,
      isChain.isLongestChain ends⟩
    rw [split, significant_drop_lead, tokens]

theorem isExtent {call : SkippedCall} {site stop : Nat}
    (holds : Holds pattern stream ⟨.skip call, site, stop⟩) :
    IsExtent pattern stream site stop ∧
      call.line = Token.firstLine? ((stream.take stop).drop site) ∧
      call.source = Token.source ((stream.take stop).drop site) := by
  obtain ⟨positive, bounded⟩ := holds.bounds
  cases holds with
  | @closed before lead arguments rest split isLead enclosed =>
    have slice := slice_eq before (lead ++ Token.openParen :: (arguments ++ [Token.closeParen])) rest
    have whole : before ++ (lead ++ Token.openParen :: (arguments ++ [Token.closeParen])) ++ rest =
        stream := by
      rw [split]
      simp
    rw [whole] at slice
    refine ⟨⟨positive, bounded, lead, arguments, isLead, Or.inl ⟨slice, enclosed⟩⟩, ?_, ?_⟩
    · rw [slice]
      rfl
    · rw [slice]
      rfl
  | @unclosed before lead arguments split isLead stays =>
    have slice := slice_eq before (lead ++ Token.openParen :: arguments) []
    have whole : before ++ (lead ++ Token.openParen :: arguments) ++ [] = stream := by
      rw [split]
      simp
    have toEnd : before.length + (lead ++ Token.openParen :: arguments).length = stream.length := by
      rw [split]
      simp
    have tail : stream.drop before.length = lead ++ Token.openParen :: arguments := by
      rw [split, List.append_assoc, List.drop_left]
    rw [whole] at slice
    refine ⟨⟨positive, bounded, lead, arguments, isLead, Or.inr ⟨toEnd, tail, stays⟩⟩, ?_, ?_⟩
    · rw [slice]
      rfl
    · rw [slice]
      rfl

end Holds

/-! ### The records of a stream at their places -/

/-- Behind the chain that spells the first of the groups comes a token that is no dot, be it in the
group, the comma behind it or the parenthesis that closes the call. -/
theorem exists_terminated_chain {arguments : List Token} {groups : Groups} {id : String}
    (splits : Groups.split? arguments = some groups)
    (literal : Literal.value? groups.first = some id) (rest : List Token) :
    ∃ chain terminator others,
      Token.significant (arguments ++ Token.closeParen :: rest) = chain ++ terminator :: others ∧
      terminator ≠ Token.dot ∧ Literal.Chain chain id := by
  obtain ⟨chain, tail, first, isChain, ends⟩ := Literal.exists_chain_of_value? literal
  obtain ⟨separator, more, behind, plain, other⟩ : ∃ separator more,
      (groups.others.flatMap fun group => Token.comma :: group) ++ Token.closeParen :: rest =
        separator :: more ∧ separator.isTrivia = false ∧ separator ≠ Token.dot := by
    cases groups.others with
    | nil => exact ⟨Token.closeParen, rest, rfl, by decide, by decide⟩
    | cons group others => exact ⟨Token.comma, _, rfl, by decide, by decide⟩
  have tokens : Token.significant (arguments ++ Token.closeParen :: rest) =
      chain ++ (tail ++ separator :: Token.significant more) := by
    rw [← Groups.joined_of_split? splits, Groups.joined, List.append_assoc, behind,
      Token.significant_append, first, List.append_assoc]
    simp [Token.significant, plain]
  cases tail with
  | nil => exact ⟨chain, separator, _, tokens, other, isChain⟩
  | cons token tail =>
    exact ⟨chain, token, _, tokens, fun dotted => ends (congrArg some dotted), isChain⟩

/-- Records of a stream with their places, in the order in which they stand. -/
structure SitedRecords (pattern : Pattern) (stream : List Token) (found : List (Record SkippedCall))
    (sited : List (Sited (Record SkippedCall))) : Prop where
  found_eq : sited.map Sited.found = found
  holds : ∀ entry ∈ sited, Holds pattern stream entry
  ordered : sited.Pairwise fun first second => first.stop ≤ second.site

namespace SitedRecords

variable {pattern : Pattern} {stream : List Token} {found : List (Record SkippedCall)}
  {sited : List (Sited (Record SkippedCall))}

theorem nil : SitedRecords pattern stream [] [] where
  found_eq := rfl
  holds := fun _ impossible => by cases impossible
  ordered := List.Pairwise.nil

theorem single {entry : Sited (Record SkippedCall)} (holds : Holds pattern stream entry) :
    SitedRecords pattern stream [entry.found] [entry] where
  found_eq := rfl
  holds := fun _ member => List.mem_singleton.mp member ▸ holds
  ordered := List.pairwise_singleton _ _

/-- What stands in a part of a stream stands in the stream. -/
theorem within (records : SitedRecords pattern stream found sited) (before after : List Token)
    (safe : after = [] ∨ Balanced stream) :
    SitedRecords pattern (before ++ stream ++ after) found (sited.map (Sited.shift before.length)) where
  found_eq := by
    rw [← records.found_eq, List.map_map]
    rfl
  holds := by
    intro entry member
    obtain ⟨inner, inside, rfl⟩ := List.mem_map.mp member
    exact (records.holds inner inside).within before after safe
  ordered := by
    rw [List.pairwise_map]
    exact records.ordered.imp fun le => Nat.add_le_add_left le _

/-- Records that stand before a position, followed by records behind it. -/
theorem append {others : List (Record SkippedCall)} {otherSited : List (Sited (Record SkippedCall))}
    (first : SitedRecords pattern stream found sited) (position : Nat)
    (second : SitedRecords pattern stream others otherSited)
    (before : ∀ entry ∈ sited, entry.stop ≤ position)
    (behind : ∀ entry ∈ otherSited, position ≤ entry.site) :
    SitedRecords pattern stream (found ++ others) (sited ++ otherSited) where
  found_eq := by rw [List.map_append, first.found_eq, second.found_eq]
  holds := by
    intro entry member
    rcases List.mem_append.mp member with left | right
    · exact first.holds entry left
    · exact second.holds entry right
  ordered := List.pairwise_append.mpr ⟨first.ordered, second.ordered, fun entry left other right =>
    Nat.le_trans (before entry left) (behind other right)⟩

end SitedRecords

/-- The parameters of a call stand behind the first of its groups, which is not empty, and a comma. -/
theorem exists_first_before_parameters {tokens arguments group : List Token}
    (parameters : (Call.closed tokens arguments).HasParameters group) :
    ∃ first right, first ≠ [] ∧ arguments = first ++ Token.comma :: (group ++ right) := by
  obtain ⟨id, category, reads⟩ := parameters
  obtain ⟨_, _, groups, same, splits, literal, _, second⟩ := Call.exists_groups_of_read reads
  obtain ⟨_, rfl⟩ := Call.closed.inj same
  have joined := Groups.joined_of_split? splits
  cases listed : groups.others with
  | nil =>
    rw [listed] at second
    cases second
  | cons head more =>
    rw [listed] at second
    obtain rfl := Option.some.inj second
    rw [Groups.joined, listed, List.flatMap_cons] at joined
    refine ⟨groups.first, more.flatMap fun group => Token.comma :: group, ?_, joined.symm⟩
    intro nothing
    rw [nothing] at literal
    cases literal

/-- The parameters of a call stand among its arguments. -/
theorem exists_around_parameters {tokens arguments group : List Token}
    (parameters : (Call.closed tokens arguments).HasParameters group) :
    ∃ left right, arguments = left ++ group ++ right := by
  obtain ⟨first, right, _, split⟩ := exists_first_before_parameters parameters
  refine ⟨first ++ [Token.comma], right, ?_⟩
  rw [split]
  simp

/-- The records of a closed call stand in it, its own first, given that those of its parameters have
their places there. -/
theorem exists_sited_call {pattern : Pattern} {lead arguments : List Token}
    (before rest : List Token) (isLead : IsLead pattern.tokens lead) (enclosed : Enclosed arguments)
    {call : Call}
    (closed : call =
      .closed (lead ++ Token.openParen :: (arguments ++ [Token.closeParen])) arguments)
    (nested : ∀ group, call.HasParameters group →
      ∃ sited, SitedRecords pattern group (records pattern group) sited) :
    ∃ sited, SitedRecords pattern
        (before ++ lead ++ Token.openParen :: (arguments ++ Token.closeParen :: rest))
        (call.recordsAs Call.toSkipped fun group _ => records pattern group) sited ∧
      ∀ entry ∈ sited, entry.stop ≤
        before.length + (lead ++ Token.openParen :: (arguments ++ [Token.closeParen])).length := by
  rcases call.unreadable_or_message with unreadable | ⟨id, category, parameters, reads⟩
  · rw [Call.recordsAs_of_unreadable unreadable, closed]
    refine ⟨_, SitedRecords.single (Holds.closed rfl isLead enclosed), ?_⟩
    intro entry member
    rw [List.mem_singleton.mp member]
  · obtain ⟨_, _, groups, same, splits, literal, _, _⟩ := Call.exists_groups_of_read reads
    obtain ⟨_, rfl⟩ := Call.closed.inj (closed.symm.trans same)
    obtain ⟨chain, terminator, others, tokens, ends, isChain⟩ :=
      exists_terminated_chain splits literal rest
    have own : Holds pattern
        (before ++ lead ++ Token.openParen :: (arguments ++ Token.closeParen :: rest))
        ⟨.message category id, before.length, before.length + 1⟩ :=
      Holds.message rfl isLead tokens ends isChain
    have short : before.length + 1 ≤
        before.length + (lead ++ Token.openParen :: (arguments ++ [Token.closeParen])).length := by
      simp only [List.length_append, List.length_cons, List.length_nil]
      omega
    cases parameters with
    | none =>
      rw [Call.recordsAs_of_message reads]
      refine ⟨_, SitedRecords.single own, ?_⟩
      intro entry member
      rw [List.mem_singleton.mp member]
      exact short
    | some group =>
      have parameters : call.HasParameters group := ⟨id, category, reads⟩
      obtain ⟨sited, inner⟩ := nested group parameters
      obtain ⟨left, right, rfl⟩ := exists_around_parameters (closed ▸ parameters)
      -- The parameters are balanced, so that no call in them reaches beyond their end.
      have placed := inner.within (before ++ lead ++ Token.openParen :: left)
        (right ++ Token.closeParen :: rest) (Or.inr parameters.balanced)
      have around : before ++ lead ++ Token.openParen :: left ++ group ++
          (right ++ Token.closeParen :: rest) = before ++ lead ++
            Token.openParen :: (left ++ group ++ right ++ Token.closeParen :: rest) := by
        simp
      rw [around] at placed
      rw [Call.recordsAs_of_parameters reads]
      refine ⟨_, (SitedRecords.single own).append (before.length + 1) placed ?_ ?_, ?_⟩
      · intro entry member
        rw [List.mem_singleton.mp member]
      · intro entry member
        obtain ⟨original, _, rfl⟩ := List.mem_map.mp member
        simp only [Sited.shift, List.length_append, List.length_cons]
        omega
      · intro entry member
        rcases List.mem_append.mp member with first | later
        · rw [List.mem_singleton.mp first]
          exact short
        · obtain ⟨original, inside, rfl⟩ := List.mem_map.mp later
          have bounded := (inner.holds original inside).bounds.2
          simp only [Sited.shift, List.length_append, List.length_cons, List.length_nil]
          omega

/-- **The records of a stream at their places.** Each stands at a call site of its own, behind those
that come before it. -/
theorem exists_sited_records (pattern : Pattern) (stream : List Token) :
    ∃ sited, SitedRecords pattern stream (records pattern stream) sited := by
  rcases calls_cases pattern stream with
    none | ⟨before, lead, arguments, split, isLead, stays, found⟩ |
      ⟨before, lead, arguments, rest, split, isLead, enclosed, found⟩
  · rw [records_eq, none]
    exact ⟨[], SitedRecords.nil⟩
  · rw [records_eq, found]
    exact ⟨_, SitedRecords.single (Holds.unclosed split isLead stays)⟩
  · have shorter := length_rest_lt split
    obtain ⟨later, others⟩ := exists_sited_records pattern rest
    let tokens := lead ++ Token.openParen :: (arguments ++ [Token.closeParen])
    have nested (group : List Token)
        (parameters : (Call.closed tokens arguments).HasParameters group) :
        ∃ sited, SitedRecords pattern group (records pattern group) sited := by
      have member : Call.closed tokens arguments ∈ calls pattern stream := by
        rw [found]
        exact List.mem_cons_self
      have shorter := Call.length_parameters_lt member parameters
      exact exists_sited_records pattern group
    obtain ⟨sited, own, inside⟩ := exists_sited_call before rest isLead enclosed rfl nested
    have around : before ++ tokens ++ rest ++ [] = stream := by
      rw [split]
      simp [tokens]
    have placed := others.within (before ++ tokens) [] (Or.inl rfl)
    rw [around] at placed
    rw [← split] at own
    rw [records_eq, found, List.flatMap_cons, ← records_eq]
    refine ⟨_, own.append (before.length + tokens.length) placed inside ?_⟩
    intro entry member
    obtain ⟨original, _, rfl⟩ := List.mem_map.mp member
    simp [Sited.shift]
termination_by stream.length

/-! ### What a scan reports, at its places -/

/-- The entries of an extraction, each with a place in the stream that accounts for it: every
occurrence of an id in the catalogue and every skipped call. -/
structure Attribution (pattern : Pattern) (stream : List Token) (extraction : Extraction)
    (messages : List (Sited Message)) (skips : List (Sited SkippedCall)) : Prop where
  messages_eq : messages.map Sited.found = extraction.catalogue.toMessages
  skips_eq : skips.map Sited.found = extraction.skipped
  /-- No two entries share a place. -/
  distinct : (messages.map Sited.site ++ skips.map Sited.site).Nodup
  isCallSite : ∀ site ∈ messages.map Sited.site ++ skips.map Sited.site,
    IsCallSite pattern stream site
  opensWith : ∀ message ∈ messages, OpensWith pattern stream message.site message.found.id
  /-- A skipped call is shown as the slice of the stream that it extends over. -/
  isExtent : ∀ skip ∈ skips, IsExtent pattern stream skip.site skip.stop ∧
    skip.found.line = Token.firstLine? ((stream.take skip.stop).drop skip.site) ∧
    skip.found.source = Token.source ((stream.take skip.stop).drop skip.site)
  /-- The slices follow each other without overlap. -/
  disjoint : skips.Pairwise fun first second => first.stop ≤ second.site
  /-- No message comes from inside a slice. -/
  outside : ∀ message ∈ messages, ∀ skip ∈ skips,
    message.site < skip.site ∨ skip.stop ≤ message.site

theorem Record.exists_of_message? {defaultCategory : String} {record : Record SkippedCall} {message : Message}
    (found : record.message? defaultCategory = some message) :
    ∃ category, record = .message category message.id := by
  cases record with
  | skip _ => cases found
  | message category id => exact ⟨category, by rw [← Option.some.inj found]⟩

theorem Record.eq_of_skipped? {record : Record SkippedCall} {call : SkippedCall}
    (found : record.skipped? = some call) : record = .skip call := by
  cases record with
  | skip _ => rw [Option.some.inj found]
  | message _ _ => cases found

namespace SitedRecords

variable {pattern : Pattern} {stream : List Token} {found : List (Record SkippedCall)}
  {sited : List (Sited (Record SkippedCall))}

theorem mem_of_message {defaultCategory : String} {message : Sited Message}
    (member : message ∈ sited.filterMap (Sited.select (Record.message? defaultCategory))) :
    ∃ category, ⟨.message category message.found.id, message.site, message.stop⟩ ∈ sited := by
  obtain ⟨⟨record, _, _⟩, inside, isMessage, rfl, rfl⟩ := Sited.exists_of_mem_select member
  obtain ⟨category, rfl⟩ := Record.exists_of_message? isMessage
  exact ⟨category, inside⟩

theorem mem_of_skip {skip : Sited SkippedCall}
    (member : skip ∈ sited.filterMap (Sited.select Record.skipped?)) :
    ⟨.skip skip.found, skip.site, skip.stop⟩ ∈ sited := by
  obtain ⟨⟨record, _, _⟩, inside, isSkip, rfl, rfl⟩ := Sited.exists_of_mem_select member
  obtain rfl := Record.eq_of_skipped? isSkip
  exact inside

theorem apart (records : SitedRecords pattern stream found sited) {first second : Sited (Record SkippedCall)}
    (firstMember : first ∈ sited) (secondMember : second ∈ sited) (differ : first ≠ second) :
    first.Apart second := by
  have anyOrder : sited.Pairwise Sited.Apart := records.ordered.imp fun le => Or.inl le
  exact anyOrder.forall firstMember secondMember differ

/-- No two of the messages, and no two of the skipped calls, have the same place. -/
theorem nodup_sites_select {α : Type} {function : Record SkippedCall → Option α}
    (records : SitedRecords pattern stream found sited) :
    ((sited.filterMap (Sited.select function)).map Sited.site).Nodup := by
  apply Sited.nodup_sites (Sited.ordered_select records.ordered)
  intro chosen member
  obtain ⟨entry, inside, _, site, stop⟩ := Sited.exists_of_mem_select member
  rw [← site, ← stop]
  exact (records.holds entry inside).bounds.1

/-- No message comes from inside a skipped call. -/
theorem message_outside_skip (records : SitedRecords pattern stream found sited)
    {defaultCategory : String} {message : Sited Message} {skip : Sited SkippedCall}
    (isMessage : message ∈ sited.filterMap (Sited.select (Record.message? defaultCategory)))
    (isSkip : skip ∈ sited.filterMap (Sited.select Record.skipped?)) :
    message.site < skip.site ∨ skip.stop ≤ message.site := by
  obtain ⟨category, messageInside⟩ := mem_of_message isMessage
  have skipInside := mem_of_skip isSkip
  have proper := (records.holds _ messageInside).bounds.1
  rcases records.apart messageInside skipInside (fun same => by cases same) with before | behind
  · exact Or.inl (Nat.lt_of_lt_of_le proper before)
  · exact Or.inr behind

/-- The catalogue takes the messages in another order, and each of them keeps its place. -/
theorem exists_catalogued (records : SitedRecords pattern stream found sited)
    (defaultCategory : String) :
    ∃ messages : List (Sited Message),
      messages.map Sited.found =
        (Extraction.ofRecords defaultCategory found).catalogue.toMessages ∧
      messages.Perm (sited.filterMap (Sited.select (Record.message? defaultCategory))) := by
  obtain ⟨messages, catalogued, perm⟩ : Relation.Comp (· = List.map Sited.found ·) List.Perm
      (Extraction.ofRecords defaultCategory found).catalogue.toMessages
      (sited.filterMap (Sited.select (Record.message? defaultCategory))) := by
    rw [List.eq_map_comp_perm]
    show List.Perm _ (List.map _ _)
    rw [Sited.map_found_select, records.found_eq]
    exact Catalogue.toMessages_group_perm _
  exact ⟨messages, catalogued.symm, perm⟩

end SitedRecords

/-- **Every entry of a scan has a call site of its own.** -/
theorem scan_entries_have_call_sites (pattern : Pattern) (defaultCategory : String)
    (stream : List Token) :
    ∃ messages skips,
      Attribution pattern stream (scan pattern defaultCategory stream).value messages skips := by
  obtain ⟨sited, placed⟩ := exists_sited_records pattern stream
  obtain ⟨messages, catalogued, perm⟩ := placed.exists_catalogued defaultCategory
  rw [value_scan_eq_ofRecords]
  refine ⟨messages, sited.filterMap (Sited.select Record.skipped?), ?_⟩
  constructor
  case messages_eq => exact catalogued
  case skips_eq =>
    rw [Sited.map_found_select, placed.found_eq]
    rfl
  case distinct =>
    rw [List.nodup_append]
    refine ⟨(perm.map _).nodup_iff.mpr placed.nodup_sites_select, placed.nodup_sites_select, ?_⟩
    intro site fromMessage other fromSkip same
    obtain ⟨message, listed, rfl⟩ := List.mem_map.mp fromMessage
    obtain ⟨skip, skipListed, rfl⟩ := List.mem_map.mp fromSkip
    have proper : skip.site < skip.stop :=
      (placed.holds _ (SitedRecords.mem_of_skip skipListed)).bounds.1
    have aside := placed.message_outside_skip (perm.mem_iff.mp listed) skipListed
    omega
  case isCallSite =>
    intro site member
    rcases List.mem_append.mp member with fromMessage | fromSkip
    · obtain ⟨message, listed, rfl⟩ := List.mem_map.mp fromMessage
      obtain ⟨category, inside⟩ := SitedRecords.mem_of_message (perm.mem_iff.mp listed)
      exact (placed.holds _ inside).isCallSite
    · obtain ⟨skip, listed, rfl⟩ := List.mem_map.mp fromSkip
      exact (placed.holds _ (SitedRecords.mem_of_skip listed)).isCallSite
  case opensWith =>
    intro message listed
    obtain ⟨category, inside⟩ := SitedRecords.mem_of_message (perm.mem_iff.mp listed)
    exact (placed.holds _ inside).opensWith
  case isExtent =>
    intro skip listed
    exact (placed.holds _ (SitedRecords.mem_of_skip listed)).isExtent
  case disjoint => exact Sited.ordered_select placed.ordered
  case outside =>
    intro message listed skip skipListed
    exact placed.message_outside_skip (perm.mem_iff.mp listed) skipListed

end MessageHarvest
