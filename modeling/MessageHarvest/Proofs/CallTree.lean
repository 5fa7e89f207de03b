/-
**Calls inside calls.**

A tree of calls can be written down as a stream: each call with its message as a quoted literal, the
calls below it as a list in its parameters, and its category, if it names one, behind them. Scanning
such a stream finds every message again, in the order in which the calls are written.

* `Literal.quote` — a text as a string literal.
* `CallTree.encode` — a tree of calls as a stream.
* `scan_encoded_forest` — the scan of encoded trees.
-/

import MessageHarvest.Proofs.Trivia
import MessageHarvest.Proofs.Unescaping

namespace MessageHarvest

/-! ### Quoted literals -/

namespace Literal

/-- The characters of a quoted text that stand for one character of the text. -/
def quoteCharacter (character : Char) : List Char :=
  if character = '\\' ∨ character = '\'' then ['\\', character] else [character]

/-- A text in single quotes, with a backslash before every backslash and every single quote. -/
def quote (text : String) : String :=
  String.ofList ('\'' :: text.toList.flatMap quoteCharacter ++ ['\''])

theorem stripQuotes_quote (text : String) :
    stripQuotes (quote text) = String.ofList (text.toList.flatMap quoteCharacter) := by
  unfold stripQuotes quote
  rw [String.toList_ofList]
  show String.ofList (text.toList.flatMap quoteCharacter ++ ['\'']).dropLast = _
  rw [List.dropLast_concat]

theorem writes_quoteCharacter (character : Char) :
    Escape.Writes character (quoteCharacter character) := by
  unfold quoteCharacter
  split
  · rename_i escaped
    rcases escaped with rfl | rfl
    · exact Escape.Writes.escaped (by decide)
    · exact Escape.Writes.escaped (by decide)
  · rename_i plain
    exact Escape.Writes.plain fun same => plain (Or.inl same)

/-- **Quoting is undone** when the value of a literal is taken. -/
theorem stringValue_quote (text : String) : stringValue (quote text) = text := by
  have writes : List.Forall₂ Escape.Writes text.toList (text.toList.map quoteCharacter) :=
    List.forall₂_map_right_iff.mpr
      (List.forall₂_same.mpr fun character _ => writes_quoteCharacter character)
  rw [stringValue, stripQuotes_quote, unescape, String.toList_ofList, List.flatMap_def,
    Escape.assemble_pieces_flatten writes, String.ofList_toList]

end Literal

/-- The literal that denotes a text. -/
def Token.literal (text : String) : Token :=
  .lexeme Kind.string (Literal.quote text) 0

theorem Literal.value?_literal (text : String) :
    Literal.value? [Token.literal text] = some text := by
  have value : Literal.value? [Token.literal text] =
      (some "").map (Literal.stringValue (Literal.quote text) ++ ·) := rfl
  rw [value, Literal.stringValue_quote, Option.map_some, String.append_empty]

/-! ### Trees of calls -/

/-- A call with its message, the category that it may name, and the calls in its parameters. -/
inductive CallTree where
  | node (id : String) (category : Option String) (children : List CallTree)

namespace CallTree

/-- The calls of a tree as a stream: each begins with the tokens of the pattern. -/
def encode (pattern : Pattern) : CallTree → List Token
  | node id category children =>
    pattern.tokens ++ [Token.openParen, Token.literal id, Token.comma, Bracket.square.opener] ++
      [Token.comma].intercalate (children.map (encode pattern)) ++ [Bracket.square.closer] ++
      category.elim [] (fun name => [Token.comma, Token.literal name]) ++ [Token.closeParen]

/-- The messages of a tree: that of the call at the root before those of the calls below it, each
under the default category if it names none. -/
def messages (defaultCategory : String) : CallTree → List Message
  | node id category children =>
    { category := category.getD defaultCategory, id } ::
      children.flatMap (messages defaultCategory)

/-- The records of a tree, in the order of its messages. -/
def records : CallTree → List (Record SkippedCall)
  | node id category children => .message category id :: children.flatMap records

/-- The calls of a list, as they stand in parameters. -/
def parameters (pattern : Pattern) (children : List CallTree) : List Token :=
  Bracket.square.opener :: ([Token.comma].intercalate (children.map (encode pattern)) ++
    [Bracket.square.closer])

theorem parameters_cons (pattern : Pattern) (child : CallTree) (children : List CallTree) :
    parameters pattern (child :: children) = Bracket.square.opener :: (encode pattern child ++
      ((children.flatMap fun other => Token.comma :: encode pattern other) ++
        [Bracket.square.closer])) := by
  rw [parameters, List.map_cons]
  show _ :: ([Token.comma].intercalate (Groups.mk _ _).toList ++ _) = _
  rw [← Groups.joined_eq_intercalate, Groups.joined]
  simp [List.flatMap_map]

/-- The groups of arguments of a call. -/
def groups (pattern : Pattern) (id : String) (category : Option String)
    (children : List CallTree) : Groups where
  first := [Token.literal id]
  others := parameters pattern children :: category.toList.map fun name => [Token.literal name]

variable {pattern : Pattern}

/-- A call is the pattern with the joined groups of its arguments in parentheses. -/
theorem encode_eq (id : String) (category : Option String) (children : List CallTree) :
    encode pattern (node id category children) =
      pattern.tokens ++ Token.openParen :: ((groups pattern id category children).joined ++
        [Token.closeParen]) := by
  rw [encode]
  cases category with
  | none => simp [groups, Groups.joined, parameters]
  | some name => simp [groups, Groups.joined, parameters]

/-- Messages are those of the records, under the default category where they name none. -/
theorem filterMap_records (defaultCategory : String) (tree : CallTree) :
    tree.records.filterMap (Record.message? defaultCategory) = tree.messages defaultCategory := by
  obtain ⟨id, category, children⟩ := tree
  rw [records, messages]
  show _ :: (children.flatMap records).filterMap (Record.message? defaultCategory) = _
  rw [List.filterMap_flatMap]
  congr 1
  apply List.flatMap_congr
  intro child member
  exact filterMap_records defaultCategory child

theorem filterMap_skipped?_records (tree : CallTree) :
    tree.records.filterMap Record.skipped? = [] := by
  obtain ⟨id, category, children⟩ := tree
  rw [records, List.filterMap_cons_none rfl, List.filterMap_flatMap, List.flatMap_eq_nil_iff]
  intro child member
  exact filterMap_skipped?_records child

end CallTree

/-! ### Finding encoded calls -/

/-- The pattern has no trivia, no bracket and no comma among its tokens. -/
def Pattern.IsSimple (pattern : Pattern) : Prop :=
  ∀ token ∈ pattern.tokens,
    token.isTrivia = false ∧ Bracket.IsPlain token ∧ token ≠ Token.comma

instance (token : Token) : Decidable (Bracket.IsPlain token) :=
  decidable_of_iff (∀ shape ∈ Bracket.all, token ≠ shape.opener ∧ token ≠ shape.closer)
    ⟨fun plain shape => plain shape (by cases shape <;> decide), fun plain shape _ => plain shape⟩

instance (pattern : Pattern) : Decidable pattern.IsSimple :=
  inferInstanceAs (Decidable (∀ token ∈ pattern.tokens, _))

namespace Pattern.IsSimple

variable {pattern : Pattern}

/-- Without trivia the tokens of the pattern are a lead of their own. -/
theorem isLead (simple : pattern.IsSimple) : IsLead pattern.tokens pattern.tokens where
  starts := by
    have two := pattern.two_le_length
    cases tokens : pattern.tokens with
    | nil => simp [tokens] at two
    | cons token rest => exact ⟨token, rest, rfl, (simple token (by simp [tokens])).1⟩
  same := by
    have kept : Token.significant pattern.tokens = pattern.tokens := by
      refine List.filter_eq_self.mpr fun token member => ?_
      rw [(simple token member).1]
      rfl
    rw [kept]
    exact List.forall₂_same.mpr fun token _ => Token.Same.refl token

theorem balanced (simple : pattern.IsSimple) : Balanced pattern.tokens := by
  have plain : ∀ token ∈ pattern.tokens, Bracket.IsPlain token :=
    fun token member => (simple token member).2.1
  generalize pattern.tokens = tokens at plain
  induction tokens with
  | nil => exact Balanced.nil
  | cons token tokens ih =>
    exact Balanced.plain (plain token List.mem_cons_self)
      (ih fun other member => plain other (List.mem_cons_of_mem _ member))

/-- Punctuation that does not occur in the pattern matches none of its tokens. -/
theorem foreign {text : String} (absent : Token.punctuation text ∉ pattern.tokens) :
    ∀ expected ∈ pattern.tokens, ¬ (Token.punctuation text).Same expected := by
  intro expected member same
  cases expected with
  | punctuation other => exact absent ((show text = other from same) ▸ member)
  | lexeme _ _ _ => exact same

theorem foreign_square (simple : pattern.IsSimple) :
    ∀ expected ∈ pattern.tokens, ¬ Bracket.square.opener.Same expected :=
  foreign fun member => ((simple _ member).2.1 .square).1 rfl

theorem foreign_comma (simple : pattern.IsSimple) :
    ∀ expected ∈ pattern.tokens, ¬ Token.comma.Same expected :=
  foreign fun member => (simple _ member).2.2 rfl

end Pattern.IsSimple

namespace CallTree

variable {pattern : Pattern}

theorem isPlain_literal (text : String) : Bracket.IsPlain (Token.literal text) := by
  intro shape
  cases shape <;> exact ⟨nofun, nofun⟩

theorem balanced_literal (text : String) : Balanced [Token.literal text] :=
  Balanced.plain (isPlain_literal text) Balanced.nil

theorem balanced_parameters {children : List CallTree}
    (balanced : ∀ child ∈ children, Balanced (encode pattern child)) :
    Balanced ([Token.comma].intercalate (children.map (encode pattern))) := by
  cases children with
  | nil => exact Balanced.nil
  | cons child children =>
    rw [List.map_cons]
    show Balanced ([Token.comma].intercalate (Groups.mk _ _).toList)
    rw [← Groups.joined_eq_intercalate]
    apply Groups.balanced_joined
    intro group member
    obtain ⟨other, listed, rfl⟩ := List.mem_map.mp (show group ∈ (child :: children).map _ from member)
    exact balanced other listed

/-- Every group of arguments is balanced, and none has a comma of its own outside brackets. -/
theorem groups_wellFormed (id : String) (category : Option String) {children : List CallTree}
    (balanced : ∀ child ∈ children, Balanced (encode pattern child)) :
    ∀ group ∈ (groups pattern id category children).toList, Balanced group ∧ Unseparated group := by
  have literal (text : String) :
      Balanced [Token.literal text] ∧ Unseparated [Token.literal text] :=
    ⟨balanced_literal text, unseparated_of_not_mem fun member => by
      simp [Token.literal, Token.comma] at member⟩
  intro group member
  simp only [groups, Groups.toList, List.mem_cons, List.mem_map, Option.mem_toList] at member
  rcases member with rfl | rfl | ⟨name, _, rfl⟩
  · exact literal id
  · have inner := balanced_parameters balanced
    exact ⟨Balanced.pair .square inner Balanced.nil, unseparated_pair .square inner⟩
  · exact literal name

theorem balanced_encode (simple : pattern.IsSimple) (tree : CallTree) :
    Balanced (encode pattern tree) := by
  obtain ⟨id, category, children⟩ := tree
  have below : ∀ child ∈ children, Balanced (encode pattern child) :=
    fun child member => balanced_encode simple child
  have arguments : Balanced (groups pattern id category children).joined :=
    Groups.balanced_joined fun group member => (groups_wellFormed id category below group member).1
  rw [encode_eq]
  exact simple.balanced.append (Balanced.pair .round arguments Balanced.nil)

/-- The call at the root of a tree. -/
def call (pattern : Pattern) : CallTree → Call
  | node id category children =>
    .closed (encode pattern (node id category children)) (groups pattern id category children).joined

/-- The groups of arguments of an encoded call are found again. -/
theorem split?_groups (simple : pattern.IsSimple) (id : String) (category : Option String)
    (children : List CallTree) :
    Groups.split? (groups pattern id category children).joined =
      some (groups pattern id category children) :=
  Groups.split?_joined (groups_wellFormed id category fun child _ => balanced_encode simple child)

theorem enclosed_groups (simple : pattern.IsSimple) (id : String) (category : Option String)
    (children : List CallTree) : Enclosed (groups pattern id category children).joined := by
  have splits := split?_groups simple id category children
  exact (Groups.isSome_split?_iff.mp (Option.isSome_of_eq_some splits)).enclosed

/-- An encoded call at the start of a stream is found. -/
theorem calls_encode_append (simple : pattern.IsSimple) (tree : CallTree) (rest : List Token) :
    calls pattern (encode pattern tree ++ rest) = tree.call pattern :: calls pattern rest := by
  obtain ⟨id, category, children⟩ := tree
  have found := calls_call simple.isLead (enclosed_groups simple id category children) rest
  rw [call, encode_eq]
  simpa using found

/-- An encoded call behind a token that is foreign to the pattern is found. -/
theorem calls_cons_encode_append (simple : pattern.IsSimple) {separator : Token}
    (plain : separator.isTrivia = false) (other : separator ≠ Token.openParen)
    (foreign : ∀ expected ∈ pattern.tokens, ¬ separator.Same expected)
    (tree : CallTree) (rest : List Token) :
    calls pattern (separator :: (encode pattern tree ++ rest)) =
      tree.call pattern :: calls pattern rest := by
  obtain ⟨id, category, children⟩ := tree
  have nothing : calls pattern [] = [] := rfl
  have closed : ∀ tokens, Call.unclosed tokens ∉ calls pattern [] := fun _ => List.not_mem_nil
  have found := calls_append_call closed plain other foreign simple.isLead
    (enclosed_groups simple id category children) rest
  rw [call, encode_eq]
  simpa [nothing] using found

/-- The calls of parameters are those that were encoded there. -/
theorem calls_parameters (simple : pattern.IsSimple) (children : List CallTree) :
    calls pattern (parameters pattern children) = children.map (call pattern) := by
  have separated (others : List CallTree) :
      calls pattern ((others.flatMap fun other => Token.comma :: encode pattern other) ++
        [Bracket.square.closer]) = others.map (call pattern) := by
    induction others with
    | nil => exact calls_of_length_le (Nat.le_of_succ_le pattern.two_le_length)
    | cons other others ih =>
      rw [List.flatMap_cons, List.append_assoc, List.cons_append,
        calls_cons_encode_append simple (by decide) (by decide) simple.foreign_comma, ih,
        List.map_cons]
  cases children with
  | nil => exact calls_of_length_le pattern.two_le_length
  | cons child children =>
    rw [parameters_cons,
      calls_cons_encode_append simple (by decide) (by decide) simple.foreign_square, separated,
      List.map_cons]

/-- The calls of encoded trees, one after the other. -/
theorem calls_flatMap_encode (simple : pattern.IsSimple) (forest : List CallTree) :
    calls pattern (forest.flatMap (encode pattern)) = forest.map (call pattern) := by
  induction forest with
  | nil => rfl
  | cons tree forest ih => rw [List.flatMap_cons, calls_encode_append simple, ih, List.map_cons]

/-! ### Reading encoded calls -/

theorem read_call (simple : pattern.IsSimple) (id : String) (category : Option String)
    (children : List CallTree) :
    ((node id category children).call pattern).read =
      .message id category (some (parameters pattern children)) := by
  rw [call, Call.read_of_split (split?_groups simple id category children) (Literal.value?_literal id)]
  cases category with
  | none => rfl
  | some name =>
    show Call.Reading.message id (Literal.value? [Token.literal name]) _ = _
    rw [Literal.value?_literal]
    rfl

/-- **The records of an encoded call** are those of its tree. -/
theorem records_call (simple : pattern.IsSimple) (tree : CallTree) :
    ((tree.call pattern).recordsAs Call.toSkipped fun group _ => MessageHarvest.records pattern group) =
      tree.records := by
  obtain ⟨id, category, children⟩ := tree
  rw [Call.recordsAs_of_parameters (read_call simple id category children), records, records_eq,
    calls_parameters simple, List.flatMap_map]
  congr 1
  apply List.flatMap_congr
  intro child member
  exact records_call simple child

end CallTree

theorem records_flatMap_encode {pattern : Pattern} (simple : pattern.IsSimple)
    (forest : List CallTree) :
    records pattern (forest.flatMap (CallTree.encode pattern)) =
      forest.flatMap CallTree.records := by
  rw [records_eq, CallTree.calls_flatMap_encode simple, List.flatMap_map]
  exact List.flatMap_congr fun tree _ => CallTree.records_call simple tree

/-- The scan of encoded trees groups their messages and skips nothing. -/
theorem scan_flatMap_encode {pattern : Pattern} (simple : pattern.IsSimple)
    (defaultCategory : String) (forest : List CallTree) :
    (scan pattern defaultCategory (forest.flatMap (CallTree.encode pattern))).value =
      Extraction.ofLists (forest.flatMap (CallTree.messages defaultCategory)) [] := by
  have messages : (forest.flatMap CallTree.records).filterMap (Record.message? defaultCategory) =
      forest.flatMap (CallTree.messages defaultCategory) := by
    rw [List.filterMap_flatMap]
    exact List.flatMap_congr fun tree _ => CallTree.filterMap_records defaultCategory tree
  have skips : (forest.flatMap CallTree.records).filterMap Record.skipped? = [] := by
    rw [List.filterMap_flatMap, List.flatMap_eq_nil_iff]
    exact fun tree _ => CallTree.filterMap_skipped?_records tree
  rw [value_scan_eq_ofRecords, records_flatMap_encode simple]
  show Extraction.ofLists _ _ = _
  rw [messages, skips]

/-- **Encoded trees of calls are read back.** The scan of a stream that spells the encodings of trees
one after the other, up to trivia and lines, skips nothing. It groups the messages of all calls, each
call before those in its parameters. -/
theorem scan_encoded_forest {pattern : Pattern} (simple : pattern.IsSimple)
    (defaultCategory : String) (forest : List CallTree) {stream : List Token}
    (spells : Token.Alike stream (forest.flatMap (CallTree.encode pattern))) :
    (scan pattern defaultCategory stream).value.skipped = [] ∧
      (scan pattern defaultCategory stream).value.catalogue =
        Catalogue.group (forest.flatMap (CallTree.messages defaultCategory)) := by
  have encoded := scan_flatMap_encode simple defaultCategory forest
  constructor
  · rw [← List.length_eq_zero_iff, length_skipped_eq_of_alike pattern defaultCategory spells, encoded]
    rfl
  · rw [catalogue_eq_of_alike pattern defaultCategory spells, encoded]
    rfl

/-- Two calls, the first of which names a category and has two calls in its parameters, one without a
message text and one with a quote and a backslash in it. -/
def familyForest : List CallTree :=
  [.node "a" (some "menu") [.node "" none [], .node "it's \\" (some "menu") []], .node "b" none []]

/-- The stream that spells the encoding, with a blank behind each comma and a line for each call. -/
def familyStream : List Token :=
  let blank (line : Int) : Token := .lexeme Kind.whitespace " " line
  let literal (text : String) (line : Int) : Token := .lexeme Kind.string text line
  arrowTranslateAt 1 ++ [Token.openParen, literal "'a'" 1, Token.comma, blank 1, .punctuation "["] ++
    arrowTranslateAt 2 ++ [Token.openParen, literal "''" 2, Token.comma, blank 2, .punctuation "[",
      .punctuation "]", Token.closeParen, Token.comma] ++
    arrowTranslateAt 3 ++ [Token.openParen, literal "'it\\'s \\\\'" 3, Token.comma, blank 3,
      .punctuation "[", .punctuation "]", Token.comma, blank 3, literal "'menu'" 3,
      Token.closeParen] ++
    [.punctuation "]", Token.comma, blank 4, literal "'menu'" 4, Token.closeParen] ++
    arrowTranslateAt 5 ++ [Token.openParen, literal "'b'" 5, Token.comma, .punctuation "[",
      .punctuation "]", Token.closeParen]

theorem scan_family_stream :
    arrowTranslate.IsSimple ∧
    Token.Alike familyStream (familyForest.flatMap (CallTree.encode arrowTranslate)) ∧
    (scan arrowTranslate "app" familyStream).value.skipped = [] ∧
    (scan arrowTranslate "app" familyStream).value.catalogue =
      ⟨[("menu", ["a", "it's \\"]), ("app", ["", "b"])]⟩ := by
  have simple : arrowTranslate.IsSimple := by decide
  have spells : Token.Alike familyStream (familyForest.flatMap (CallTree.encode arrowTranslate)) := by
    simp only [familyForest, List.flatMap_cons, List.flatMap_nil, CallTree.encode, List.map_cons,
      List.map_nil]
    decide
  obtain ⟨skipped, catalogue⟩ := scan_encoded_forest simple "app" familyForest spells
  refine ⟨simple, spells, skipped, catalogue.trans ?_⟩
  simp only [familyForest, List.flatMap_cons, List.flatMap_nil, CallTree.messages]
  decide

end MessageHarvest
