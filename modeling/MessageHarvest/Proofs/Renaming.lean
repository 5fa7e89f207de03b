/-
**Kinds without a meaning are only compared.**

Five kinds mean something to a scan: blanks and comments are passed over, strings and the two sorts
of numbers are literals. Any other kind enters where a token is compared with one of the pattern, and
nowhere else, so that its name may be exchanged for another one as long as the names of different
kinds stay different.

* `Kind.IsRenaming` — an exchange of names that leaves the five kinds as they are.
* `View.renaming` — a stream under other names is a view of the stream.
* `scan_ignores_kind_names` — a stream under other names is scanned as before, if the pattern is put
  under these names too.
-/

import Mathlib.Logic.Equiv.Basic
import MessageHarvest.Proofs.Reporting
import MessageHarvest.Proofs.View

namespace MessageHarvest

/-! ### Exchanging the names of kinds -/

/-- The kinds that have a meaning of their own. -/
def Kind.meaningful : List Kind := [whitespace, comment, string, integer, float]

/-- An exchange of names keeps different kinds apart and leaves those with a meaning as they are. -/
structure Kind.IsRenaming (rename : Kind → Kind) : Prop where
  injective : Function.Injective rename
  fixes : ∀ kind ∈ Kind.meaningful, rename kind = kind

/-- A token whose kind goes by another name. -/
def Token.renamed (rename : Kind → Kind) : Token → Token
  | punctuation text => punctuation text
  | lexeme kind text line => lexeme (rename kind) text line

/-- A pattern whose kinds go by other names. -/
def Pattern.renamed (rename : Kind → Kind) (pattern : Pattern) : Pattern where
  tokens := pattern.tokens.map (Token.renamed rename)
  two_le_length := by
    rw [List.length_map]
    exact pattern.two_le_length

namespace Kind.IsRenaming

variable {rename : Kind → Kind}

/-- No other kind gets the name of one with a meaning. -/
theorem eq_iff (renames : IsRenaming rename) {meant : Kind} (member : meant ∈ meaningful)
    (kind : Kind) : rename kind = meant ↔ kind = meant := by
  constructor
  · intro same
    exact renames.injective (same.trans (renames.fixes meant member).symm)
  · rintro rfl
    exact renames.fixes kind member

theorem samePart (renames : IsRenaming rename) (kind : Kind) : kind.SamePart (rename kind) where
  isTrivia_eq := by
    simp only [isTrivia, renames.eq_iff (show whitespace ∈ meaningful by decide),
      renames.eq_iff (show comment ∈ meaningful by decide)]
  string_iff := renames.eq_iff (by decide) kind
  isNumber_eq := by
    simp only [isNumber, renames.eq_iff (show integer ∈ meaningful by decide),
      renames.eq_iff (show float ∈ meaningful by decide)]

/-- Tokens agree under other names if they agree under their own. -/
theorem same_iff (renames : IsRenaming rename) (first second : Token) :
    (first.renamed rename).Same (second.renamed rename) ↔ first.Same second := by
  cases first with
  | punctuation text => cases second <;> exact Iff.rfl
  | lexeme kind text line =>
    cases second with
    | punctuation text => exact Iff.rfl
    | lexeme otherKind otherText otherLine =>
      exact and_congr_left' renames.injective.eq_iff

end Kind.IsRenaming

/-! ### Other names as a view -/

variable {rename : Kind → Kind}

/-- The view that shows every lexeme on its line and under the name of its kind. -/
def View.renaming (renames : Kind.IsRenaming rename) (pattern : Pattern) :
    View pattern (pattern.renamed rename) where
  lexeme? kind line := some (rename kind, line)
  isTrivia_of_hidden := nofun
  samePart := by
    intro kind line shown seen
    obtain rfl := Option.some.inj seen
    exact renames.samePart kind
  expected := by
    refine List.forall₂_map_right_iff.mpr (List.forall₂_same.mpr fun expected _ token shown seen => ?_)
    have shows : shown = token.renamed rename := by
      cases token <;> exact (Option.some.inj seen).symm
    rw [shows]
    exact renames.same_iff token expected

theorem View.stream_renaming (renames : Kind.IsRenaming rename) (pattern : Pattern)
    (tokens : List Token) :
    (View.renaming renames pattern).stream tokens = tokens.map (Token.renamed rename) := by
  have shows : (View.renaming renames pattern).token? = some ∘ Token.renamed rename := by
    funext token
    cases token <;> rfl
  rw [View.stream, shows, List.filterMap_eq_map]

theorem Token.source_map_renamed (tokens : List Token) :
    source (tokens.map (renamed rename)) = source tokens := by
  have sameText : text ∘ renamed rename = text := by
    funext token
    cases token <;> rfl
  rw [source, List.map_map, sameText, source]

theorem Token.firstLine?_map_renamed (tokens : List Token) :
    firstLine? (tokens.map (renamed rename)) = firstLine? tokens := by
  have sameLine : line? ∘ renamed rename = line? := by
    funext token
    cases token <;> rfl
  rw [firstLine?, List.findSome?_map, sameLine, firstLine?]

/-- Of a skipped call the line and the text are shown, and neither depends on the names. -/
theorem View.toSkipped_call_renaming (renames : Kind.IsRenaming rename) (pattern : Pattern)
    (call : Call) : ((View.renaming renames pattern).call call).toSkipped = call.toSkipped := by
  have renamedTokens : ((View.renaming renames pattern).call call).tokens =
      call.tokens.map (Token.renamed rename) := by
    rw [View.tokens_call, View.stream_renaming]
  rw [Call.toSkipped, renamedTokens, Token.source_map_renamed, Token.firstLine?_map_renamed,
    Call.toSkipped]

/-- **A stream under other names has the same records.** -/
theorem records_renamed (renames : Kind.IsRenaming rename) (pattern : Pattern)
    (stream : List Token) :
    records (pattern.renamed rename) (stream.map (Token.renamed rename)) =
      records pattern stream := by
  have sameRecord : Record.map Call.toSkipped ∘ Record.map (View.renaming renames pattern).call =
      Record.map Call.toSkipped := by
    funext finding
    cases finding with
    | skip call => exact congrArg Record.skip (View.toSkipped_call_renaming renames pattern call)
    | message category id => rfl
  rw [records_eq_map_findings, records_eq_map_findings, ← View.stream_renaming renames pattern,
    View.findings_stream, List.map_map, sameRecord]

/-! ### Scanning under other names -/

/-- **The names of kinds do not influence a scan.** If the kinds of the pattern and of the stream go by
other names, such that different kinds still differ and those with a meaning keep their names, then
the scan has the same messages in the same order, skips the same calls on the same lines, and gives
the same notices. -/
theorem scan_ignores_kind_names (renames : Kind.IsRenaming rename) (pattern : Pattern)
    (defaultCategory : String) (stream : List Token) :
    scan (pattern.renamed rename) defaultCategory (stream.map (Token.renamed rename)) =
      scan pattern defaultCategory stream :=
  scan_eq_of_records_eq defaultCategory (records_renamed renames pattern stream)

/-- Operators are called names, and names operators. -/
def operatorsAsNames : Kind → Kind :=
  Equiv.swap Kind.operator ⟨"name"⟩

/-- The stream `->translate($id)->translate('a' . 1)`. -/
def variableAndLiteral : List Token :=
  arrowTranslateAt 1 ++ [Token.openParen, .lexeme Kind.variableName "$id" 1, Token.closeParen] ++
    arrowTranslateAt 2 ++ [Token.openParen, .lexeme Kind.string "'a'" 2, .lexeme Kind.whitespace " " 2,
      Token.dot, .lexeme Kind.integer "1" 3, Token.closeParen]

/-- A pattern under its own names finds nothing in a stream under other names. -/
theorem scan_operators_as_names :
    Kind.IsRenaming operatorsAsNames ∧
    (scan arrowTranslate "app" (variableAndLiteral.map (Token.renamed operatorsAsNames))).value =
      Extraction.empty ∧
    (scan arrowTranslate "app" variableAndLiteral).value =
      ⟨⟨[("app", ["a1"])]⟩, [⟨some 1, "->translate($id)"⟩]⟩ ∧
    scan (arrowTranslate.renamed operatorsAsNames) "app"
        (variableAndLiteral.map (Token.renamed operatorsAsNames)) =
      scan arrowTranslate "app" variableAndLiteral := by
  have renames : Kind.IsRenaming operatorsAsNames := ⟨Equiv.injective _, by decide⟩
  exact ⟨renames, by decide +kernel, by decide +kernel, scan_ignores_kind_names renames _ _ _⟩

end MessageHarvest
