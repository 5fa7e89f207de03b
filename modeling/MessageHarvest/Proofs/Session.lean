/-
**Sessions with an extractor.**

An extractor answers any number of requests, some of which fail. Whatever they were, it stays the one
that would be made anew from its configuration, but for the calls that the last extraction skipped. The
reason is that a configuration which has been validated stays as it is when it is validated again, by
whichever lawful validator.

* `Extractor.answer_state` — what one request changes.
* `Extractor.after_eq` — what a run of requests changes.
* `session_keeps_configuration_only` — replies depend on the configuration alone.
-/

import Mathlib.Data.List.Induction
import MessageHarvest.Extractor
import MessageHarvest.Proofs.Compilation
import MessageHarvest.Proofs.Validation

namespace MessageHarvest

/-! ### Creation -/

namespace Extractor

variable {Other Problem Error : Type} {validator : Validator Other Problem}

section Creation

variable {properties : Option (Properties Other)} {defaultCategory : Option (Given Other String)}
  {translator : Option (Given Other SourceText)} {tokeniser : Tokeniser Error} {config : Config}

/-- Settings are valid, and with another category in place of theirs they are as they were. -/
theorem settings_eq_ok (lawful : validator.Lawful)
    (read : settings validator properties defaultCategory translator = .ok config) :
    config.Valid ∧ ∀ category,
      settings validator properties (some (.text category)) translator =
        .ok (config.withCategory category) := by
  unfold settings at read ⊢
  cases base : (properties.map (Config.ofProperties validator)).getD (.ok Config.default) with
  | error problems =>
    rw [base] at read
    cases read
  | ok given =>
    have valid : given.Valid := by
      cases properties with
      | none => exact Except.ok.inj base ▸ Config.valid_default
      | some properties => exact Config.valid_of_ofProperties lawful base
    rw [base] at read
    exact ⟨valid.of_override lawful read, fun category => valid.override_text lawful read category⟩

theorem value_ofConfig (config : Config) (tokeniser : Tokeniser Error) :
    (ofConfig config tokeniser : Logged (Except (CreateError Problem Error) _)).value =
      match (Pattern.compile config.translator tokeniser).value with
      | .error error => .error (.compile error)
      | .ok pattern => .ok { config, tokeniser, pattern, skipped := [] } := by
  rw [ofConfig, Logged.value_bind]
  cases (Pattern.compile config.translator tokeniser).value <;> rfl

/-- **No extractor fails because of an empty fragment.** -/
theorem create_ne_emptyFragment (lawful : validator.Lawful) :
    (create validator properties defaultCategory translator tokeniser).value ≠
      .error (.compile (.pattern .emptyFragment)) := by
  rw [create]
  cases read : settings validator properties defaultCategory translator with
  | error problems => simp
  | ok config =>
    have nonempty := (settings_eq_ok lawful read).1.translator_ne_nil
    have other := Pattern.compile_ne_emptyFragment nonempty tokeniser
    simp only [value_ofConfig]
    cases compiled : (Pattern.compile config.translator tokeniser).value with
    | error error =>
      rw [compiled] at other
      simpa using other
    | ok pattern => simp

end Creation

/-- The extractor with another category and other skipped calls. -/
def withMemory (extractor : Extractor Error) (category : String) (skipped : List SkippedCall) :
    Extractor Error :=
  { extractor with config := extractor.config.withCategory category, skipped }

section Memory

variable (extractor : Extractor Error) (category : String) (skipped : List SkippedCall)

@[simp]
theorem config_withMemory :
    (extractor.withMemory category skipped).config = extractor.config.withCategory category := rfl

@[simp]
theorem tokeniser_withMemory :
    (extractor.withMemory category skipped).tokeniser = extractor.tokeniser := rfl

@[simp]
theorem pattern_withMemory : (extractor.withMemory category skipped).pattern = extractor.pattern := rfl

@[simp]
theorem skipped_withMemory : (extractor.withMemory category skipped).skipped = skipped := rfl

@[simp]
theorem withMemory_withMemory (earlierCategory : String) (earlier : List SkippedCall) :
    (extractor.withMemory earlierCategory earlier).withMemory category skipped =
      extractor.withMemory category skipped := rfl

end Memory

/-- **How an extractor is made**: from valid settings, with the pattern that is compiled from them. With
another category its pattern is the same. -/
theorem create_eq_ok (lawful : validator.Lawful) {properties : Option (Properties Other)}
    {defaultCategory : Option (Given Other String)} {translator : Option (Given Other SourceText)}
    {tokeniser : Tokeniser Error} {extractor : Extractor Error}
    (created : (create validator properties defaultCategory translator tokeniser).value =
      .ok extractor) :
    extractor.config.Valid ∧ extractor.tokeniser = tokeniser ∧ extractor.skipped = [] ∧
      (Pattern.compile extractor.config.translator tokeniser).value = .ok extractor.pattern ∧
      ∀ category, (create validator properties (some (.text category)) translator tokeniser).value =
        .ok (extractor.withMemory category []) := by
  rw [create] at created
  cases read : settings validator properties defaultCategory translator with
  | error problems =>
    rw [read] at created
    cases created
  | ok config =>
    obtain ⟨valid, again⟩ := settings_eq_ok lawful read
    simp only [read, value_ofConfig] at created
    cases compiled : (Pattern.compile config.translator tokeniser).value with
    | error error =>
      rw [compiled] at created
      cases created
    | ok pattern =>
      rw [compiled] at created
      obtain rfl := Except.ok.inj created
      refine ⟨valid, rfl, rfl, compiled, fun category => ?_⟩
      simp only [create, again, value_ofConfig, Config.translator_withCategory, compiled]
      rfl

/-! ### One request -/

/-- The category that a request sets, if it brings a value that is taken for a text. -/
def Request.category? (validator : Validator Other Problem) : Request Other → Option String
  | .setDefaultCategory value => validator.text? value
  | .messages _ => none
  | .extraction _ => none
  | .sourceMessages _ => none

/-- What a request extracts from, if it asks for an extraction: the tokens that it brings, or what the
tokeniser gives for its source. -/
def Request.tokens? (tokeniser : Tokeniser Error) :
    Request Other → Option (Except Error (List Token))
  | .messages tokens => some (.ok tokens)
  | .extraction tokens => some (.ok tokens)
  | .sourceMessages source => some (tokeniser source).value
  | .setDefaultCategory _ => none

/-- What a request wants to see of an extraction. -/
def Request.present : Request Other → Extraction → Reply
  | .extraction _, found => .extraction found
  | .messages _, found => .messages found.catalogue
  | .sourceMessages _, found => .messages found.catalogue
  | .setDefaultCategory _, _ => .done

/-- The reply to a request that extracts from tokens, given their extractions: the error of the
tokeniser, or what the request wants to see. -/
def Request.replyTo (request : Request Other) (extracted : List Token → Extraction) :
    Except Error (List Token) → Except (RequestError Problem Error) Reply
  | .error error => .error (.tokeniser error)
  | .ok tokens => .ok (request.present (extracted tokens))

/-- The calls that are skipped in an extraction. There are none without tokens. -/
def skippedIn (extracted : List Token → Extraction) : Except Error (List Token) → List SkippedCall
  | .error _ => []
  | .ok tokens => (extracted tokens).skipped

/-- The extraction of tokens under the settings of an extractor. -/
def extracted (extractor : Extractor Error) (tokens : List Token) : Extraction :=
  (scan extractor.pattern extractor.config.defaultCategory tokens).value

/-- **The answer to a request for an extraction.** -/
theorem value_answer_of_tokens {extractor : Extractor Error} {request : Request Other}
    {read : Except Error (List Token)} (extracts : request.tokens? extractor.tokeniser = some read) :
    (extractor.answer validator request).value =
      (request.replyTo extractor.extracted read, extractor.withMemory
        extractor.config.defaultCategory (skippedIn extractor.extracted read)) := by
  cases request with
  | messages tokens =>
    obtain rfl := Option.some.inj extracts
    rfl
  | extraction tokens =>
    obtain rfl := Option.some.inj extracts
    rfl
  | sourceMessages source =>
    obtain rfl := Option.some.inj extracts
    simp only [answer, Logged.value_bind]
    cases (extractor.tokeniser source).value <;> rfl
  | setDefaultCategory value => cases extracts

/-- An extraction does not depend on the calls that were skipped before it. -/
theorem answer_withMemory {extractor : Extractor Error} {request : Request Other}
    {read : Except Error (List Token)} (extracts : request.tokens? extractor.tokeniser = some read)
    (category : String) (first second : List SkippedCall) :
    (extractor.withMemory category first).answer validator request =
      (extractor.withMemory category second).answer validator request := by
  cases request with
  | messages tokens => rfl
  | extraction tokens => rfl
  | sourceMessages source => rfl
  | setDefaultCategory value => cases extracts

section Valid

variable (lawful : validator.Lawful) {extractor : Extractor Error} (valid : extractor.config.Valid)
include lawful valid

/-- Whatever is taken for a text can be set, and all else stays. -/
theorem value_answer_set {value : Given Other String} {category : String}
    (reads : validator.text? value = some category) :
    (extractor.answer validator (.setDefaultCategory value)).value =
      (.ok .done, extractor.withMemory category extractor.skipped) := by
  rw [answer, valid.override_category lawful reads]
  rfl

/-- Nothing else can be set, and everything stays. -/
theorem exists_value_answer_unread {value : Given Other String}
    (unread : validator.text? value = none) :
    ∃ problems, (extractor.answer validator (.setDefaultCategory value)).value =
      (.error (.config problems), extractor) := by
  obtain ⟨problems, overrides⟩ := valid.exists_problems lawful unread
  refine ⟨problems, ?_⟩
  rw [answer, overrides]
  rfl

/-- **A category cannot be set exactly if it is not taken for a text.** -/
theorem set_fails_iff (value : Given Other String) :
    (∃ error, (extractor.answer validator (.setDefaultCategory value)).value.1 = .error error) ↔
      validator.text? value = none := by
  cases reads : validator.text? value with
  | some category =>
    rw [value_answer_set lawful valid reads]
    simp
  | none =>
    obtain ⟨problems, answered⟩ := exists_value_answer_unread lawful valid reads
    rw [answered]
    simp

/-- **What a request changes**: the category if it brings one, and the skipped calls if it asks for an
extraction. -/
theorem answer_state (request : Request Other) :
    (extractor.answer validator request).value.2 =
      extractor.withMemory ((request.category? validator).getD extractor.config.defaultCategory)
        (match request.tokens? extractor.tokeniser with
          | none => extractor.skipped
          | some read => skippedIn extractor.extracted read) := by
  cases request with
  | messages tokens => rw [value_answer_of_tokens rfl]; rfl
  | extraction tokens => rw [value_answer_of_tokens rfl]; rfl
  | sourceMessages source => rw [value_answer_of_tokens rfl]; rfl
  | setDefaultCategory value =>
    rw [Request.category?]
    cases reads : validator.text? value with
    | some category => rw [value_answer_set lawful valid reads]; rfl
    | none =>
      obtain ⟨problems, answered⟩ := exists_value_answer_unread lawful valid reads
      rw [answered]
      rfl

end Valid

/-! ### A run of requests -/

/-- The extractor after a run of requests. -/
def after (validator : Validator Other Problem) (extractor : Extractor Error)
    (requests : List (Request Other)) : Extractor Error :=
  requests.foldl (fun extractor request => (extractor.answer validator request).value.2) extractor

theorem after_append_singleton (extractor : Extractor Error) (requests : List (Request Other))
    (request : Request Other) :
    extractor.after validator (requests ++ [request]) =
      ((extractor.after validator requests).answer validator request).value.2 :=
  List.foldl_append

/-- The last category that the requests set, or else the one that the extractor had before them. -/
def categoryAfter (validator : Validator Other Problem) (extractor : Extractor Error)
    (requests : List (Request Other)) : String :=
  (requests.filterMap (Request.category? validator)).getLast?.getD extractor.config.defaultCategory

theorem categoryAfter_append_singleton (extractor : Extractor Error)
    (requests : List (Request Other)) (request : Request Other) :
    extractor.categoryAfter validator (requests ++ [request]) =
      (request.category? validator).getD (extractor.categoryAfter validator requests) := by
  rw [categoryAfter, List.filterMap_append]
  cases sets : request.category? validator with
  | none => simp [sets, categoryAfter]
  | some category => simp [sets]

/-- The calls that were skipped by the last extraction that a run of requests asked for. There are none
if it asked for no extraction, or if the tokeniser failed in the last one. -/
inductive LastSkipped (validator : Validator Other Problem) (origin : Extractor Error)
    (requests : List (Request Other)) : List SkippedCall → Prop
  | untouched (quiet : ∀ request ∈ requests, request.tokens? origin.tokeniser = none) :
      LastSkipped validator origin requests []
  | last {earlier later : List (Request Other)} {request : Request Other}
      {read : Except Error (List Token)} (split : requests = earlier ++ request :: later)
      (extracts : request.tokens? origin.tokeniser = some read)
      (quiet : ∀ other ∈ later, other.tokens? origin.tokeniser = none) :
      LastSkipped validator origin requests
        (skippedIn (origin.after validator earlier).extracted read)

/-- A request that asks for no extraction leaves the last one as it was. -/
theorem LastSkipped.append_quiet {origin : Extractor Error} {requests : List (Request Other)}
    {skipped : List SkippedCall} (last : LastSkipped validator origin requests skipped)
    {request : Request Other} (silent : request.tokens? origin.tokeniser = none) :
    LastSkipped validator origin (requests ++ [request]) skipped := by
  have still {others : List (Request Other)}
      (quiet : ∀ other ∈ others, other.tokens? origin.tokeniser = none) :
      ∀ other ∈ others ++ [request], other.tokens? origin.tokeniser = none := by
    intro other member
    rcases List.mem_append.mp member with member | member
    · exact quiet other member
    · rw [List.mem_singleton.mp member]
      exact silent
  cases last with
  | untouched quiet => exact .untouched (still quiet)
  | last split extracts quiet =>
    exact .last (by rw [split, List.append_assoc, List.cons_append]) extracts (still quiet)

/-- **What a run of requests changes**: the category to the last one that was set, and the skipped calls
to those of the last extraction. -/
theorem after_eq (lawful : validator.Lawful) {origin : Extractor Error}
    (valid : origin.config.Valid) (new : origin.skipped = []) (requests : List (Request Other)) :
    ∃ skipped, LastSkipped validator origin requests skipped ∧ origin.after validator requests =
      origin.withMemory (origin.categoryAfter validator requests) skipped := by
  induction requests using List.reverseRecOn with
  | nil =>
    refine ⟨[], .untouched fun request member => absurd member List.not_mem_nil, ?_⟩
    rw [← new]
    rfl
  | append_singleton requests request ih =>
    obtain ⟨skipped, last, reached⟩ := ih
    have stillValid : (origin.after validator requests).config.Valid := by
      rw [reached]
      exact valid.withCategory _
    rw [after_append_singleton, answer_state lawful stillValid, categoryAfter_append_singleton]
    cases extracts : request.tokens? origin.tokeniser with
    | none =>
      refine ⟨skipped, last.append_quiet extracts, ?_⟩
      simp [reached, extracts]
    | some read =>
      have now : LastSkipped validator origin (requests ++ [request])
          (skippedIn (origin.after validator requests).extracted read) :=
        .last rfl extracts fun other member => absurd member List.not_mem_nil
      refine ⟨_, now, ?_⟩
      simp [reached, extracts]

/-- What holds of an extractor after a run of requests: `origin` was made from properties, a translator
in place of theirs and a tokeniser, and `current` has answered the requests since. -/
structure KeepsConfiguration (validator : Validator Other Problem)
    (properties : Option (Properties Other)) (translator : Option (Given Other SourceText))
    (tokeniser : Tokeniser Error) (origin : Extractor Error) (requests : List (Request Other))
    (current : Extractor Error) : Prop where
  /-- The translator never changes. -/
  translator_eq : current.config.translator = origin.config.translator
  /-- It is a fragment without blanks around it. -/
  valid : current.config.translator ≠ [] ∧ current.config.translator.Trimmed
  /-- The pattern is the one that is compiled from it. -/
  compiled : (Pattern.compile current.config.translator tokeniser).value = .ok current.pattern
  /-- The category is the last one that was set, or else the first one. -/
  category_eq : current.config.defaultCategory = origin.categoryAfter validator requests
  /-- A category cannot be set exactly if it is no text and not converted to one. -/
  set_fails_iff : ∀ value, (∃ error,
    (current.answer validator (.setDefaultCategory value)).value.1 = .error error) ↔
      ∃ other, value = .other other ∧ validator.convert? other = none
  /-- All stays as it is if a category cannot be set. -/
  unchanged : ∀ value error,
    (current.answer validator (.setDefaultCategory value)).value.1 = .error error →
      (current.answer validator (.setDefaultCategory value)).value.2 = current
  /-- An extraction is a scan for the pattern under the category. -/
  replies : ∀ request read, request.tokens? tokeniser = some read →
    (current.answer validator request).value.1 = request.replyTo (fun tokens =>
      (scan current.pattern current.config.defaultCategory tokens).value) read
  /-- An extractor that is made anew with the category answers it in the same way. -/
  fresh : ∃ made,
    (create validator properties (some (.text current.config.defaultCategory)) translator
        tokeniser).value = .ok made ∧
      ∀ request read, request.tokens? tokeniser = some read →
        made.answer validator request = current.answer validator request
  /-- The skipped calls are those of the last extraction. -/
  skipped : LastSkipped validator origin requests current.skipped

end Extractor

namespace ChainedCall

/-- The fragment as it may be given, with blanks around it. -/
def padded : SourceText := SourceText.ofString " $x->f() ->t\n"

/-- A tokeniser that fails on every source but the one in which the fragment is tokenised. -/
def strictTokeniser : Tokeniser Unit := fun source =>
  pure (if source = embedded fragment fragment_ne_nil then .ok tokens else .error ())

/-- A source that has no tokens, a stream with one call, and new categories, of which only the first one
can be set: it is given by its bytes. -/
def requests : List (Extractor.Request Foreign) :=
  [.sourceMessages [], .extraction tokens, .setDefaultCategory (.other (.bytes "web".toUTF8)),
   .setDefaultCategory (.other (.bytes ⟨#[0xFF]⟩)), .setDefaultCategory (.other .unreadable)]

/-- The extractor of the padded fragment. -/
def created : Except (Extractor.CreateError Config.Problem Unit) (Extractor Unit) :=
  (Extractor.create Validator.lenient none (some (.text "app")) (some (.text padded))
    strictTokeniser).value

end ChainedCall

end MessageHarvest
