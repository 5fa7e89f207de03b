/-
**Looking at a stream through a view.**

A view shows the lexemes of a stream in another way: under another kind, on another line, or, if they
are trivia, not at all. Punctuation and the texts of lexemes are shown as they are. As long as a view
keeps apart what the search for a pattern keeps apart, it makes no difference whether a stream is
searched and then looked at, or looked at and then searched.

* `View` — what a view shows, and what it has to keep.
* `View.calls_stream` — the calls of a stream through a view are its calls, seen through the view.
* `View.read_call` — they say the same, up to the view.
* `View.findings_stream` — the same with the calls in the parameters.
-/

import MessageHarvest.Proofs.Findings

namespace MessageHarvest

/-! ### Views -/

/-- A token whose kind and line are changed if it is a lexeme, or that is hidden. -/
def Token.seen (lexeme? : Kind → Int → Option (Kind × Int)) : Token → Option Token
  | punctuation text => some (punctuation text)
  | lexeme kind text line => (lexeme? kind line).map fun shown => lexeme shown.1 text shown.2

/-- A kind has the same part in a stream as another one. -/
structure Kind.SamePart (kind shown : Kind) : Prop where
  isTrivia_eq : shown.isTrivia = kind.isTrivia
  string_iff : shown = Kind.string ↔ kind = Kind.string
  isNumber_eq : shown.isNumber = kind.isNumber

/-- A token has the same part in a stream as another one. -/
structure Token.SamePart (token shown : Token) : Prop where
  punctuation_iff : ∀ text, shown = .punctuation text ↔ token = .punctuation text
  isTrivia_eq : shown.isTrivia = token.isTrivia
  isStringLiteral_eq : shown.isStringLiteral = token.isStringLiteral
  isNumberLiteral_eq : shown.isNumberLiteral = token.isNumberLiteral
  text_eq : shown.text = token.text

/-- What is shown in place of lexemes, such that a search for `image` in what is shown runs as a
search for `pattern` does. -/
structure View (pattern image : Pattern) where
  /-- The kind and the line under which a lexeme of a kind and on a line is shown. -/
  lexeme? : Kind → Int → Option (Kind × Int)
  /-- Only trivia are hidden. -/
  isTrivia_of_hidden : ∀ {kind line}, lexeme? kind line = none → kind.isTrivia = true
  samePart : ∀ {kind line shown}, lexeme? kind line = some shown → kind.SamePart shown.1
  /-- What is shown matches a token of the image if what it stands for matches that of the pattern.
  -/
  expected : List.Forall₂ (fun expected counterpart => ∀ token shown : Token,
    token.seen lexeme? = some shown → (shown.Same counterpart ↔ token.Same expected))
      pattern.tokens image.tokens

namespace View

variable {pattern image : Pattern} (view : View pattern image)

/-- What is shown in place of a token. -/
def token? (token : Token) : Option Token :=
  token.seen view.lexeme?

/-- What is shown of a stream. -/
def stream (tokens : List Token) : List Token :=
  tokens.filterMap view.token?

@[simp]
theorem stream_nil : view.stream [] = [] := rfl

@[simp]
theorem stream_append (first second : List Token) :
    view.stream (first ++ second) = view.stream first ++ view.stream second :=
  List.filterMap_append

@[simp]
theorem stream_punctuation (text : String) (rest : List Token) :
    view.stream (.punctuation text :: rest) = .punctuation text :: view.stream rest := rfl

variable {view} {token shown : Token}

theorem stream_of_shown (shows : view.token? token = some shown) (rest : List Token) :
    view.stream (token :: rest) = shown :: view.stream rest :=
  List.filterMap_cons_some shows

theorem stream_of_hidden (hidden : view.token? token = none) (rest : List Token) :
    view.stream (token :: rest) = view.stream rest :=
  List.filterMap_cons_none hidden

/-- A hidden token is trivia. -/
theorem isTrivia_of_token? (hidden : view.token? token = none) : token.isTrivia = true := by
  cases token with
  | punctuation text => cases hidden
  | lexeme kind text line => exact view.isTrivia_of_hidden (Option.map_eq_none_iff.mp hidden)

theorem exists_shown (view : View pattern image) (plain : token.isTrivia = false) :
    ∃ shown, view.token? token = some shown := by
  cases looked : view.token? token with
  | none => exact absurd (isTrivia_of_token? looked) (by rw [plain]; decide)
  | some shown => exact ⟨shown, rfl⟩

/-- What is shown for a token has the same part as the token. -/
theorem samePart_of_shown (shows : view.token? token = some shown) : token.SamePart shown := by
  cases token with
  | punctuation text =>
    obtain rfl := Option.some.inj shows
    exact ⟨fun _ => Iff.rfl, rfl, rfl, rfl, rfl⟩
  | lexeme kind text line =>
    obtain ⟨other, seen, rfl⟩ := Option.map_eq_some_iff.mp shows
    refine ⟨fun text => ⟨nofun, nofun⟩, ?_, ?_, ?_, rfl⟩
    · exact (view.samePart seen).isTrivia_eq
    · exact decide_eq_decide.mpr (view.samePart seen).string_iff
    · exact (view.samePart seen).isNumber_eq

/-! ### Searching through a view -/

end View

/-- The matcher with another start. -/
def Matcher.map {First Second : Type} (change : First → Second) (matcher : Matcher First) :
    Matcher Second where
  matched := matcher.matched
  start := change matcher.start

namespace View

variable {pattern image : Pattern} {token shown : Token}

theorem isComplete_map {First Second : Type} (view : View pattern image) (change : First → Second)
    (matcher : Matcher First) :
    (matcher.map change).isComplete image = matcher.isComplete pattern := by
  have length : image.length = pattern.length := view.expected.length_eq.symm
  unfold Matcher.isComplete
  rw [length]
  rfl

/-- At each place either both patterns have ended or their tokens correspond. -/
theorem expected_cases (view : View pattern image) (index : Nat) :
    pattern.tokens[index]? = none ∧ image.tokens[index]? = none ∨
    ∃ expected counterpart, pattern.tokens[index]? = some expected ∧
      image.tokens[index]? = some counterpart ∧ ∀ token shown, view.token? token = some shown →
        (shown.Same counterpart ↔ token.Same expected) := by
  obtain ⟨length, related⟩ := List.forall₂_iff_get.mp view.expected
  by_cases inside : index < pattern.tokens.length
  · have insideImage : index < image.tokens.length := length ▸ inside
    exact Or.inr ⟨_, _, List.getElem?_eq_getElem inside, List.getElem?_eq_getElem insideImage,
      related index inside insideImage⟩
  · have outside := Nat.le_of_not_lt inside
    exact Or.inl ⟨List.getElem?_eq_none outside, List.getElem?_eq_none (length ▸ outside)⟩

variable {view : View pattern image}

theorem advance_map {First Second : Type} (shows : view.token? token = some shown)
    (change : First → Second) (matcher : Matcher First) (position : First) :
    (matcher.map change).advance image shown (change position) =
      (matcher.advance pattern token position).map change := by
  unfold Matcher.advance
  rcases view.expected_cases matcher.matched with
    ⟨ended, endedImage⟩ | ⟨expected, counterpart, found, foundImage, related⟩
  · rw [ended, show (matcher.map change).matched = matcher.matched from rfl, endedImage]
    rfl
  · have same := related token shown shows
    rw [found, show (matcher.map change).matched = matcher.matched from rfl, foundImage]
    by_cases agrees : token.Same expected
    · simp only [if_pos agrees, if_pos (same.mpr agrees), Matcher.map, apply_ite change]
    · simp only [if_neg agrees, if_neg (mt same.mp agrees), Matcher.map, Matcher.reset]

/-- A token changes a match as what is shown for it changes the match in the image. -/
theorem feed_map {First Second : Type} (shows : view.token? token = some shown)
    (change : First → Second) (matcher : Matcher First) (position : First) :
    (matcher.map change).feed image shown (change position) =
      (matcher.feed pattern token position).map change := by
  unfold Matcher.feed
  rw [view.isComplete_map]
  split
  · exact advance_map shows change matcher.reset position
  · exact advance_map shows change matcher position

/-- A capture whose tokens are seen through a view. -/
def capture (view : View pattern image) (capture : Capture (List Token)) : Capture (List Token) where
  start := view.stream capture.start
  buffer := (view.stream capture.buffer.toList).toArray
  depth := capture.depth

/-- A call whose tokens are seen through a view. -/
def call (view : View pattern image) : Call → Call
  | .closed tokens arguments => .closed (view.stream tokens) (view.stream arguments)
  | .unclosed tokens => .unclosed (view.stream tokens)

theorem tokens_call (view : View pattern image) (call : Call) :
    (view.call call).tokens = view.stream call.tokens := by
  cases call <;> rfl

/-- The progress of a search, seen through a view. -/
def progress (view : View pattern image) : Progress → Progress
  | .searching matcher => .searching (matcher.map view.stream)
  | .capturing capture => .capturing (view.capture capture)

theorem push_map (shows : view.token? token = some shown) (matcher : Matcher (List Token)) :
    (matcher.map view.stream).push shown = (matcher.push token).map view.stream := by
  simp only [Matcher.push, Matcher.map, stream_append, stream_of_shown shows, stream_nil]

theorem isClosedBy_capture (shows : view.token? token = some shown)
    (capture : Capture (List Token)) :
    (view.capture capture).isClosedBy shown = capture.isClosedBy token := by
  have closing : shown = Token.closeParen ↔ token = Token.closeParen :=
    (samePart_of_shown shows).punctuation_iff _
  unfold Capture.isClosedBy
  rw [decide_eq_decide.mpr closing]
  rfl

theorem feed_capture (shows : view.token? token = some shown) {capture : Capture (List Token)}
    (stays : capture.isClosedBy token = false) :
    (view.capture capture).feed shown = view.capture (capture.feed token) := by
  have closing : shown = Token.closeParen ↔ token = Token.closeParen :=
    (samePart_of_shown shows).punctuation_iff _
  have opening : shown = Token.openParen ↔ token = Token.openParen :=
    (samePart_of_shown shows).punctuation_iff _
  rw [Capture.feed_of_stays stays, Capture.feed_of_stays ((isClosedBy_capture shows _).trans stays)]
  unfold View.capture Capture.depthAfter
  simp only [closing, opening, Array.toList_push, stream_append, stream_of_shown shows, stream_nil,
    List.push_toArray]

/-- **A step that is shown** is the step that the image makes. -/
theorem next_progress (shows : view.token? token = some shown) (progress : Progress) :
    (view.progress progress).next image shown = view.progress (progress.next pattern token) := by
  have trivia := (samePart_of_shown shows).isTrivia_eq
  have opening : shown = Token.openParen ↔ token = Token.openParen :=
    (samePart_of_shown shows).punctuation_iff _
  cases progress with
  | searching matcher =>
    simp only [View.progress, Progress.next, trivia, view.isComplete_map, opening]
    split
    · rw [push_map shows]
    · split
      · rfl
      · show _ = Progress.searching (((matcher.feed pattern token []).push token).map view.stream)
        rw [← push_map shows, ← feed_map shows]
        rfl
  | capturing capture =>
    simp only [View.progress, Progress.next, isClosedBy_capture shows]
    split
    · rfl
    · rename_i stays
      rw [feed_capture shows (Bool.eq_false_iff.mpr stays)]

/-- **A step that is hidden** does not show in the progress, and it closes no call. -/
theorem progress_next_of_hidden (hidden : view.token? token = none) (progress : Progress) :
    view.progress (progress.next pattern token) = view.progress progress ∧
      progress.closedBy token = [] := by
  have trivia := isTrivia_of_token? hidden
  have unseen : view.stream [token] = [] := stream_of_hidden hidden []
  cases progress with
  | searching matcher =>
    refine ⟨?_, rfl⟩
    rw [Progress.next_trivia trivia]
    simp only [View.progress, Matcher.map, Matcher.push, stream_append, unseen, List.append_nil]
  | capturing capture =>
    have noParen (text : String) : token ≠ .punctuation text := by
      rintro rfl
      cases trivia
    have stays : capture.isClosedBy token = false := by
      simp [Capture.isClosedBy, Token.closeParen, noParen]
    refine ⟨?_, if_neg (by rw [stays]; decide)⟩
    rw [Progress.next_capture stays, Capture.feed_of_stays stays]
    simp only [View.progress, View.capture, Capture.depthAfter, Token.closeParen, Token.openParen,
      noParen, if_false, Array.toList_push, stream_append, unseen, List.append_nil]

theorem closedBy_progress (shows : view.token? token = some shown) (progress : Progress) :
    (view.progress progress).closedBy shown = (progress.closedBy token).map view.call := by
  cases progress with
  | searching matcher => rfl
  | capturing capture =>
    simp only [View.progress, Progress.closedBy, isClosedBy_capture shows]
    split
    · simp [View.capture, View.call, Token.openParen, Token.closeParen]
    · rfl

theorem pending_progress (progress : Progress) :
    (view.progress progress).pending = progress.pending.map view.call := by
  cases progress with
  | searching matcher => rfl
  | capturing capture =>
    simp [View.progress, Progress.pending, View.capture, View.call, Token.openParen]

theorem after_progress (view : View pattern image) (tokens : List Token) (progress : Progress) :
    (view.progress progress).after image (view.stream tokens) =
      view.progress (progress.after pattern tokens) := by
  induction tokens generalizing progress with
  | nil => rfl
  | cons token tokens ih =>
    rw [Progress.after_cons, ← ih]
    cases looked : view.token? token with
    | none => rw [stream_of_hidden looked, (progress_next_of_hidden looked progress).1]
    | some shown => rw [stream_of_shown looked, Progress.after_cons, next_progress looked]

theorem finished_progress (view : View pattern image) (tokens : List Token) (progress : Progress) :
    (view.progress progress).finished image (view.stream tokens) =
      (progress.finished pattern tokens).map view.call := by
  induction tokens generalizing progress with
  | nil => rfl
  | cons token tokens ih =>
    rw [Progress.finished, List.map_append, ← ih]
    cases looked : view.token? token with
    | none =>
      obtain ⟨same, quiet⟩ := progress_next_of_hidden looked progress
      rw [stream_of_hidden looked, same, quiet]
      rfl
    | some shown =>
      rw [stream_of_shown looked, Progress.finished, next_progress looked, closedBy_progress looked]

/-- **The calls of what is shown** are the calls of the stream, seen through the view. -/
theorem calls_stream (view : View pattern image) (stream : List Token) :
    calls image (view.stream stream) = (calls pattern stream).map view.call := by
  have finished := view.finished_progress stream Progress.start
  have after := view.after_progress stream Progress.start
  rw [calls_eq, calls_eq, List.map_append, ← finished, ← pending_progress, ← after]
  rfl

/-! ### Reading through a view -/

/-- Groups whose tokens are seen through a view. -/
def groups (view : View pattern image) (groups : Groups) : Groups where
  first := view.stream groups.first
  others := groups.others.map view.stream

theorem feed_shown (shows : view.token? token = some shown) (stack : BracketStack) :
    stack.feed shown = stack.feed token := by
  have sameText (text : String) : Token.punctuation text = shown ↔ .punctuation text = token := by
    rw [eq_comm, (samePart_of_shown shows).punctuation_iff text, eq_comm]
  have opener (shape : Bracket) : shape.opener = shown ↔ shape.opener = token := by
    cases shape <;> exact sameText _
  have closer (shape : Bracket) : shape.closer = shown ↔ shape.closer = token := by
    cases shape <;> exact sameText _
  unfold BracketStack.feed Bracket.opened? Bracket.closed?
  simp only [opener, closer]

theorem feed_trivia (trivia : token.isTrivia = true) (stack : BracketStack) :
    stack.feed token = stack := by
  apply BracketStack.feed_of_isPlain
  intro shape
  constructor
  · rintro rfl
    cases shape <;> cases trivia
  · rintro rfl
    cases shape <;> cases trivia

theorem groups_consToken_shown (shows : view.token? token = some shown) (groups : Groups) :
    view.groups (groups.consToken token) = (view.groups groups).consToken shown := by
  simp only [View.groups, Groups.consToken, stream_of_shown shows]

theorem groups_consToken_hidden (hidden : view.token? token = none) (groups : Groups) :
    view.groups (groups.consToken token) = view.groups groups := by
  simp only [View.groups, Groups.consToken, stream_of_hidden hidden]

theorem splitAfter?_stream (view : View pattern image) {stack : BracketStack}
    (valid : stack.isValid = true) (tokens : List Token) :
    Groups.splitAfter? stack (view.stream tokens) =
      (Groups.splitAfter? stack tokens).map view.groups := by
  induction tokens generalizing stack with
  | nil =>
    simp only [stream_nil, Groups.splitAfter?]
    split
    · rfl
    · rfl
  | cons token tokens ih =>
    cases looked : view.token? token with
    | none =>
      have trivia := isTrivia_of_token? looked
      have inside : ¬ (stack.isEmpty = true ∧ token = Token.comma) := by
        rintro ⟨_, rfl⟩
        cases trivia
      rw [stream_of_hidden looked, ih valid, Groups.splitAfter?, if_neg inside,
        BracketStack.answer_eq, feed_trivia trivia, if_pos valid]
      simp only [Option.map_map, Function.comp_def, groups_consToken_hidden looked]
    | some shown =>
      have separates : shown = Token.comma ↔ token = Token.comma :=
        (samePart_of_shown looked).punctuation_iff _
      rw [stream_of_shown looked, Groups.splitAfter?, Groups.splitAfter?]
      simp only [separates, BracketStack.answer_eq, feed_shown looked]
      split
      · rw [ih valid, Option.map_map, Option.map_map]
        rfl
      · split
        · rename_i still
          rw [ih still, Option.map_map, Option.map_map]
          simp only [Function.comp_def, groups_consToken_shown looked]
        · rfl

/-- What is shown of arguments is split as the arguments are. -/
theorem split?_stream (view : View pattern image) (tokens : List Token) :
    Groups.split? (view.stream tokens) = (Groups.split? tokens).map view.groups :=
  view.splitAfter?_stream rfl tokens

theorem significant_stream (view : View pattern image) (tokens : List Token) :
    Token.significant (view.stream tokens) = view.stream (Token.significant tokens) := by
  induction tokens with
  | nil => rfl
  | cons token tokens ih =>
    cases looked : view.token? token with
    | none =>
      rw [stream_of_hidden looked, ih]
      simp only [Token.significant, List.filter_cons, isTrivia_of_token? looked]
      rfl
    | some shown =>
      have trivia := (samePart_of_shown looked).isTrivia_eq
      rw [stream_of_shown looked]
      simp only [Token.significant, List.filter_cons, trivia] at ih ⊢
      split
      · rw [ih, stream_of_shown looked]
      · exact ih

/-- Literals are shown with their values. -/
theorem operandValue?_shown (shows : view.token? token = some shown) :
    Literal.operandValue? shown = Literal.operandValue? token := by
  have part := samePart_of_shown shows
  unfold Literal.operandValue?
  rw [part.isStringLiteral_eq, part.isNumberLiteral_eq, part.text_eq]

theorem joinedValue?_stream (view : View pattern image) {tokens : List Token}
    (plain : ∀ token ∈ tokens, token.isTrivia = false) :
    Literal.joinedValue? (view.stream tokens) = Literal.joinedValue? tokens := by
  fun_induction Literal.joinedValue? tokens with
  | case1 => rfl
  | case2 => rfl
  | case3 operand rest ih =>
    obtain ⟨shown, looked⟩ := view.exists_shown (plain operand (by simp))
    have later := ih fun token member => plain token (by simp [member])
    show Literal.joinedValue? (Token.dot :: view.stream (operand :: rest)) = _
    rw [stream_of_shown looked, Literal.joinedValue?, if_pos rfl]
    simp only [operandValue?_shown looked, later]
  | case4 first rest other =>
    obtain ⟨shown, looked⟩ := view.exists_shown (plain first (by simp))
    have stops : shown ≠ Token.dot := fun dotted =>
      other (((samePart_of_shown looked).punctuation_iff _).mp dotted)
    rw [stream_of_shown looked, Literal.joinedValue?.eq_def]
    exact if_neg stops

/-- What is shown of a group has the value of the group. -/
theorem value?_stream (view : View pattern image) (group : List Token) :
    Literal.value? (view.stream group) = Literal.value? group := by
  have plain : ∀ token ∈ Token.significant group, token.isTrivia = false := by
    intro token member
    simpa using (List.mem_filter.mp member).2
  unfold Literal.value?
  rw [view.significant_stream]
  cases tokens : Token.significant group with
  | nil => rfl
  | cons first rest =>
    rw [tokens] at plain
    obtain ⟨shown, looked⟩ := view.exists_shown (plain first List.mem_cons_self)
    have part := samePart_of_shown looked
    rw [stream_of_shown looked]
    simp only [part.isStringLiteral_eq, part.text_eq,
      view.joinedValue?_stream fun token member => plain token (List.mem_cons_of_mem _ member)]

/-- What a call says, with the parameters seen through a view. -/
def reading (view : View pattern image) : Call.Reading → Call.Reading
  | .unclosed => .unclosed
  | .unbalanced => .unbalanced
  | .notLiteral => .notLiteral
  | .message id category parameters => .message id category (parameters.map view.stream)

/-- **What is shown of a call** says the same as the call. -/
theorem read_call (view : View pattern image) (call : Call) :
    (view.call call).read = view.reading call.read := by
  cases call with
  | unclosed tokens => rfl
  | closed tokens arguments =>
    show (Call.closed (view.stream tokens) (view.stream arguments)).read = _
    rw [Call.read_closed, Call.read_closed, view.split?_stream]
    cases Groups.split? arguments with
    | none => rfl
    | some groups =>
      have category : ((view.groups groups).others[1]?).bind Literal.value? =
          groups.others[1]?.bind Literal.value? := by
        show ((groups.others.map view.stream)[1]?).bind Literal.value? = _
        rw [List.getElem?_map, Option.bind_map]
        simp only [Function.comp_def, view.value?_stream]
      have parameters : (view.groups groups).others[0]? = groups.others[0]?.map view.stream :=
        List.getElem?_map
      simp only [Option.map_some, category, parameters,
        show Literal.value? (view.groups groups).first = Literal.value? groups.first from
          view.value?_stream groups.first]
      cases Literal.value? groups.first with
      | none => rfl
      | some id => rfl

/-! ### Findings through a view -/

theorem unreadable_call (view : View pattern image) {call : Call} (unreadable : call.Unreadable) :
    (view.call call).Unreadable := by
  intro id category parameters same
  rw [view.read_call] at same
  cases reads : call.read with
  | message id category parameters => exact unreadable id category parameters reads
  | unclosed => rw [reads] at same; cases same
  | unbalanced => rw [reads] at same; cases same
  | notLiteral => rw [reads] at same; cases same

/-- **The findings of what is shown** are the findings of the stream, seen through the view. -/
theorem findings_stream (view : View pattern image) (stream : List Token) :
    findings image (view.stream stream) = (findings pattern stream).map (Record.map view.call) := by
  rw [findings_eq, findings_eq, view.calls_stream, List.flatMap_map, List.map_flatMap]
  apply List.flatMap_congr
  intro call member
  rcases call.unreadable_or_message with unreadable | ⟨id, category, parameters, reads⟩
  · rw [Call.recordsAs_of_unreadable unreadable,
      Call.recordsAs_of_unreadable (view.unreadable_call unreadable)]
    rfl
  · have shownReads := view.read_call call
    rw [reads] at shownReads
    cases parameters with
    | none =>
      rw [Call.recordsAs_of_message reads, Call.recordsAs_of_message shownReads]
      rfl
    | some group =>
      have shorter := Call.length_parameters_lt member ⟨id, category, reads⟩
      rw [Call.recordsAs_of_parameters reads, Call.recordsAs_of_parameters shownReads,
        findings_stream view group]
      rfl
termination_by stream.length

end View

end MessageHarvest
