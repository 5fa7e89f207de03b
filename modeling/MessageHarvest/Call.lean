/-
**Translator calls in a stream.**

A call is found where the significant tokens of a stream match the pattern and an opening
parenthesis follows. From there on every token belongs to the call, up to the parenthesis that
closes it: the first one that stands outside all parentheses opened inside the call. A call that the
stream ends in is unclosed.

* `Capture` — the tokens of a call after its parenthesis, and how many parentheses are open in it.
* `calls` — the outermost calls of a stream, in order.
* `Call.read` — what the arguments of a call say.
-/

import MessageHarvest.Arguments
import MessageHarvest.Notice
import MessageHarvest.Pattern.Matcher

namespace MessageHarvest

/-! ### Capturing the arguments -/

/-- The arguments of a call as far as they have been read. -/
structure Capture (Position : Type) where
  start : Position
  buffer : Array Token
  depth : Nat
deriving DecidableEq, Repr

namespace Capture

variable {Position : Type}

/-- Nothing has been read of a call that starts at a position. -/
def new (start : Position) : Capture Position where
  start := start
  buffer := #[]
  depth := 0

/-- The token closes the call. -/
def isClosedBy (capture : Capture Position) (token : Token) : Bool :=
  token = Token.closeParen && capture.depth = 0

/-- The number of open parentheses after a token. -/
def depthAfter (capture : Capture Position) (token : Token) : Nat :=
  if token = Token.closeParen then capture.depth - 1
  else if token = Token.openParen then capture.depth + 1
  else capture.depth

/-- The capture after one more token. The token that closes the call is not an argument of it. -/
def feed (capture : Capture Position) (token : Token) : Capture Position :=
  if capture.isClosedBy token then
    capture
  else
    { capture with buffer := capture.buffer.push token, depth := capture.depthAfter token }

end Capture

/-! ### Finding the calls -/

/-- A translator call: its tokens from the first one that matched the pattern on, and the tokens
between its parentheses if it is closed. -/
inductive Call where
  | closed (tokens : List Token) (arguments : List Token)
  | unclosed (tokens : List Token)
deriving DecidableEq, Repr

/-- Either the pattern is searched for, or the arguments of a call are read. -/
inductive Phase where
  | searching (matcher : Matcher Nat)
  | capturing (capture : Capture Nat)
deriving DecidableEq, Repr

/-- Nothing has been read. -/
def Phase.start : Phase :=
  .searching (Matcher.new 0)

/-- The number of argument tokens that have been read of an open call. -/
def Phase.captured : Phase → Nat
  | searching _ => 0
  | capturing capture => capture.buffer.size

/-- The calls that end behind a position of a stream: `rest` is the stream from there on, and the
phase says what has been read before it. -/
def callsFrom (pattern : Pattern) (stream : List Token) :
    Phase → (position : Nat) → (rest : List Token) → List Call
  | .searching _, _, [] => []
  | .capturing capture, _, [] => [.unclosed (stream.drop capture.start)]
  | .searching matcher, position, token :: rest =>
    if token.isTrivia then
      callsFrom pattern stream (.searching matcher) (position + 1) rest
    else if matcher.isComplete pattern ∧ token = Token.openParen then
      callsFrom pattern stream (.capturing (Capture.new matcher.start)) (position + 1) rest
    else
      callsFrom pattern stream (.searching (matcher.feed pattern token position))
        (position + 1) rest
  | .capturing capture, position, token :: rest =>
    if capture.isClosedBy token then
      .closed ((stream.take (position + 1)).drop capture.start) capture.buffer.toList ::
        callsFrom pattern stream Phase.start (position + 1) rest
    else
      callsFrom pattern stream (.capturing (capture.feed token)) (position + 1) rest

/-- The outermost calls of a stream, in order. -/
def calls (pattern : Pattern) (stream : List Token) : List Call :=
  callsFrom pattern stream Phase.start 0 stream

/-- The arguments of a call are shorter than what was read of them and what was still to be read. -/
theorem length_arguments_lt_callsFrom {pattern : Pattern}
    {stream rest tokens arguments : List Token} {position : Nat} {phase : Phase}
    (member : Call.closed tokens arguments ∈ callsFrom pattern stream phase position rest) :
    arguments.length < phase.captured + rest.length := by
  induction rest generalizing phase position with
  | nil => cases phase <;> simp [callsFrom] at member
  | cons token rest ih =>
    cases phase with
    | searching matcher =>
      simp only [callsFrom] at member
      split at member
      · exact Nat.lt_succ_of_lt (ih member)
      · split at member
        · have shorter := ih member
          exact Nat.lt_succ_of_lt shorter
        · have shorter := ih member
          exact Nat.lt_succ_of_lt shorter
    | capturing capture =>
      simp only [callsFrom] at member
      split at member
      · rcases List.mem_cons.mp member with same | member
        · injection same with _ arguments_eq
          simp [arguments_eq, Phase.captured]
        · have shorter := ih member
          simp only [Phase.captured, Phase.start, List.length_cons] at shorter ⊢
          omega
      · rename_i open_call
        have shorter := ih member
        simp only [Phase.captured, Capture.feed, if_neg open_call, Array.size_push,
          List.length_cons] at shorter ⊢
        omega

/-- The arguments of a call are shorter than the stream that it stands in. -/
theorem length_arguments_lt {pattern : Pattern} {stream tokens arguments : List Token}
    (member : Call.closed tokens arguments ∈ calls pattern stream) :
    arguments.length < stream.length := by
  have shorter := length_arguments_lt_callsFrom member
  simpa [Phase.captured, Phase.start] using shorter

/-! ### Reading a call -/

namespace Call

/-- All tokens of a call, from the first one that matched the pattern on. -/
def tokens : Call → List Token
  | closed tokens _ => tokens
  | unclosed tokens => tokens

/-- What the arguments of a call say. -/
inductive Reading where
  | unclosed
  | unbalanced
  | notLiteral
  | message (id : String) (category : Option String) (parameters : Option (List Token))
deriving DecidableEq, Repr

/-- Reads the arguments of a call: the brackets have to be balanced, and the first group a literal.
-/
def read : Call → Reading
  | unclosed _ => .unclosed
  | closed _ arguments =>
    match CallParameters.ofArguments? arguments with
    | none => .unbalanced
    | some parameters =>
      match parameters.messageId with
      | none => .notLiteral
      | some id => .message id parameters.category parameters.parameters

/-- The call has a message, and the group of tokens is its parameters. -/
def HasParameters (call : Call) (group : List Token) : Prop :=
  ∃ id category, call.read = .message id category (some group)

/-- The parameters of a call are shorter than the stream that the call stands in. -/
theorem length_parameters_lt {pattern : Pattern} {stream group : List Token} {call : Call}
    (member : call ∈ calls pattern stream) (parameters : call.HasParameters group) :
    group.length < stream.length := by
  obtain ⟨id, category, reads⟩ := parameters
  cases call with
  | unclosed => simp [read] at reads
  | closed tokens arguments =>
    simp only [read] at reads
    split at reads
    · cases reads
    · rename_i parameters split_arguments
      split at reads
      · cases reads
      · injection reads with _ _ parameters_eq
        exact Nat.lt_of_le_of_lt (CallParameters.length_parameters_le split_arguments parameters_eq)
          (length_arguments_lt member)

/-- A call as it is reported when it has no readable message. -/
def toSkipped (call : Call) : SkippedCall where
  line := Token.firstLine? call.tokens
  source := Token.source call.tokens

end Call

end MessageHarvest
