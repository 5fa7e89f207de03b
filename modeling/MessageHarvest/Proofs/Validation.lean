/-
**What validation leaves as it is.**

Of a validator nothing is used but its laws: a text is taken as it is, a value of another type only
for the text that it is converted to, the translator has to pass its check, properties that do not
exist are forbidden, and nothing else is wrong with a dictionary. A configuration that has been
validated then stays as it is when it is validated again: blanks around the translator are taken away
once, and then there are none.

* `SourceText.Trimmed` — no blank stands at either end of a text, as after `SourceText.trim`.
* `Validator.Lawful` — the laws.
* `Validator.lenient_lawful` — a validator that obeys them.
* `Config.Valid` — a configuration that validation leaves as it is.
* `Config.Valid.override_eq_ok_iff` — what it takes to replace values of a valid configuration.
-/

import MessageHarvest.Validation

namespace MessageHarvest

/-! ### Trimming -/

namespace SourceText

/-- No blank stands at either end. -/
structure Trimmed (source : SourceText) : Prop where
  head_isBlank : ∀ point, source.head? = some point → point.isBlank = false
  last_isBlank : ∀ point, source.getLast? = some point → point.isBlank = false

theorem isBlank_of_head?_dropWhile (source : SourceText) {point : CodePoint}
    (first : (source.dropWhile CodePoint.isBlank).head? = some point) : point.isBlank = false := by
  have plain := List.head?_dropWhile_not CodePoint.isBlank source
  rwa [first] at plain

/-- **Trimming leaves no blank at an end.** -/
theorem trimmed_trim (source : SourceText) : source.trim.Trimmed where
  head_isBlank point first := by
    -- Only blanks at the end are lost in the second step, so that the first point stays.
    have split : source.trim ++
        ((source.dropWhile CodePoint.isBlank).reverse.takeWhile CodePoint.isBlank).reverse =
          source.dropWhile CodePoint.isBlank := by
      rw [trim, ← List.reverse_append, List.takeWhile_append_dropWhile, List.reverse_reverse]
    apply isBlank_of_head?_dropWhile source
    rw [← split, List.head?_append, first, Option.some_or]
  last_isBlank point last := by
    rw [trim, List.getLast?_reverse] at last
    exact isBlank_of_head?_dropWhile _ last

theorem dropWhile_isBlank_eq_self {source : SourceText}
    (plain : ∀ point, source.head? = some point → point.isBlank = false) :
    source.dropWhile CodePoint.isBlank = source := by
  cases source with
  | nil => rfl
  | cons first others => exact List.dropWhile_cons_of_neg (by simp [plain first rfl])

/-- **Trimming changes nothing where no blank stands at an end.** -/
theorem Trimmed.trim_eq {source : SourceText} (trimmed : source.Trimmed) : source.trim = source := by
  have last : ∀ point, source.reverse.head? = some point → point.isBlank = false := by
    rw [List.head?_reverse]
    exact trimmed.last_isBlank
  rw [trim, dropWhile_isBlank_eq_self trimmed.head_isBlank, dropWhile_isBlank_eq_self last,
    List.reverse_reverse]

end SourceText

/-! ### The laws of a validator -/

namespace Validator

section Laws

variable {Other Problem : Type} (validator : Validator Other Problem)

/-- The text that a value is taken for. -/
def text? : Given Other String → Option String :=
  Given.read? validator.convert?

/-- What a check makes of the source text that a value is taken for. -/
def source? (check : SourceText → Except String SourceText) (given : Given Other SourceText) :
    Option SourceText :=
  (given.read? fun value => (validator.convert? value).map SourceText.ofString).bind fun source =>
    (check source).toOption

/-- The category that a dictionary describes. -/
def category? (default : Config) (fields : Fields Other) : Option String :=
  match fields.defaultCategory with
  | none => some default.defaultCategory
  | some given => validator.text? given

/-- The translator that a dictionary describes. The check is for a translator that is given. -/
def translator? (default : Config) (check : SourceText → Except String SourceText)
    (fields : Fields Other) : Option SourceText :=
  match fields.translator with
  | none => some default.translator
  | some given => validator.source? check given

/-- What is relied on of a validator, for any default settings and any check. -/
structure Lawful : Prop where
  /-- Only a dictionary describes a configuration. -/
  needs_dictionary : ∀ default check config, validator.validate default check .mistyped ≠ .ok config
  /-- No property is passed over because it does not exist. -/
  forbids_unknownKeys : ∀ {default check fields config},
    validator.validate default check (.dictionary fields) = .ok config → fields.unknownKeys = []
  /-- The category is the text that the given value is taken for, or else the default. -/
  reads_category : ∀ {default check fields config},
    validator.validate default check (.dictionary fields) = .ok config →
      validator.category? default fields = some config.defaultCategory
  /-- The translator is what the check makes of the text that the given value is taken for, or else
  the default. -/
  reads_translator : ∀ {default check fields config},
    validator.validate default check (.dictionary fields) = .ok config →
      validator.translator? default check fields = some config.translator
  /-- Nothing else can be wrong with a dictionary. -/
  accepts : ∀ {default check fields config}, fields.unknownKeys = [] →
    validator.category? default fields = some config.defaultCategory →
    validator.translator? default check fields = some config.translator →
      validator.validate default check (.dictionary fields) = .ok config

variable {validator}

/-- **When a dictionary is valid.** -/
theorem Lawful.validate_eq_ok_iff (lawful : validator.Lawful) {default : Config}
    {check : SourceText → Except String SourceText} {fields : Fields Other} {config : Config} :
    validator.validate default check (.dictionary fields) = .ok config ↔
      fields.unknownKeys = [] ∧
        validator.category? default fields = some config.defaultCategory ∧
        validator.translator? default check fields = some config.translator := by
  constructor
  · intro valid
    exact ⟨lawful.forbids_unknownKeys valid, lawful.reads_category valid,
      lawful.reads_translator valid⟩
  · rintro ⟨known, category, translator⟩
    exact lawful.accepts known category translator

/-- A value that is not taken for a text is of another type and not converted. -/
theorem text?_eq_none_iff {value : Given Other String} :
    validator.text? value = none ↔
      ∃ other, value = .other other ∧ validator.convert? other = none := by
  cases value with
  | text text => simp [text?, Given.read?]
  | other other => simp [text?, Given.read?]

end Laws

/-! ### The lenient validator -/

theorem toOption_readText {Text : Type} (ofString : String → Text) (key : String)
    (given : Given Foreign Text) :
    (readText ofString key given).toOption =
      given.read? fun value => value.text?.map ofString := by
  cases given with
  | text value => rfl
  | other value =>
    simp only [readText, Given.read?]
    cases value.text? <;> rfl

theorem toOption_readCategory (default : Config) (fields : Fields Foreign) :
    (readCategory default.defaultCategory fields.defaultCategory).toOption =
      lenient.category? default fields := by
  unfold readCategory category?
  cases fields.defaultCategory with
  | none => rfl
  | some given =>
    rw [toOption_readText]
    simp only [Option.map_id]
    rfl

theorem toOption_readTranslator (default : Config) (check : SourceText → Except String SourceText)
    (fields : Fields Foreign) :
    (readTranslator default.translator check fields.translator).toOption =
      lenient.translator? default check fields := by
  unfold readTranslator translator?
  cases fields.translator with
  | none => rfl
  | some given =>
    have source : lenient.source? check given =
        (readText SourceText.ofString Fields.translatorKey given).toOption.bind fun source =>
          (check source).toOption := by
      rw [toOption_readText]
      rfl
    simp only [source]
    cases readText SourceText.ofString Fields.translatorKey given with
    | error problem => rfl
    | ok value =>
      show ((check value).mapError Config.Problem.refusedTranslator).toOption = (check value).toOption
      cases check value <;> rfl

theorem lenient_validate_eq_ok_iff {default : Config}
    {check : SourceText → Except String SourceText} {fields : Fields Foreign} {config : Config} :
    lenient.validate default check (.dictionary fields) = .ok config ↔
      fields.unknownKeys = [] ∧
        lenient.category? default fields = some config.defaultCategory ∧
        lenient.translator? default check fields = some config.translator := by
  obtain ⟨category, fragment⟩ := config
  rw [← toOption_readCategory, ← toOption_readTranslator]
  simp only [lenient]
  cases readCategory default.defaultCategory fields.defaultCategory with
  | error problem => simp [Except.toOption]
  | ok readCategory =>
    cases readTranslator default.translator check fields.translator with
    | error problem => simp [Except.toOption]
    | ok readTranslator => cases fields.unknownKeys <;> simp [Except.toOption]

/-- **The lenient validator obeys the laws.** -/
theorem lenient_lawful : lenient.Lawful where
  needs_dictionary _ _ _ same := by cases same
  forbids_unknownKeys valid := (lenient_validate_eq_ok_iff.mp valid).1
  reads_category valid := (lenient_validate_eq_ok_iff.mp valid).2.1
  reads_translator valid := (lenient_validate_eq_ok_iff.mp valid).2.2
  accepts known category translator := lenient_validate_eq_ok_iff.mpr ⟨known, category, translator⟩

end Validator

/-! ### Configurations that have been validated -/

namespace Config

/-- The translator is a fragment of source, and no blank stands around it. -/
structure Valid (config : Config) : Prop where
  translator_ne_nil : config.translator ≠ []
  trimmed : config.translator.Trimmed

theorem valid_default : default.Valid where
  translator_ne_nil := by decide
  trimmed := by
    have trim_eq : default.translator.trim = default.translator := by decide +kernel
    exact trim_eq ▸ SourceText.trimmed_trim default.translator

/-- **A translator that passes the check is a fragment without blanks around it.** -/
theorem valid_of_checkTranslator {value : SourceText} {config : Config}
    (passes : checkTranslator value = .ok config.translator) : config.Valid := by
  rw [checkTranslator] at passes
  split at passes
  · cases passes
  · rename_i shown
    have same : value.trim = config.translator := Except.ok.inj passes
    rw [same, List.isEmpty_iff] at shown
    exact ⟨shown, same ▸ SourceText.trimmed_trim value⟩

/-- **Checking a translator again changes nothing.** -/
theorem Valid.checkTranslator_eq {config : Config} (valid : config.Valid) :
    checkTranslator config.translator = .ok config.translator := by
  rw [checkTranslator, valid.trimmed.trim_eq, if_neg fun empty =>
    valid.translator_ne_nil (List.isEmpty_iff.mp empty)]

/-- The configuration with another category. -/
def withCategory (config : Config) (category : String) : Config :=
  { config with defaultCategory := category }

@[simp]
theorem translator_withCategory (config : Config) (category : String) :
    (config.withCategory category).translator = config.translator := rfl

@[simp]
theorem defaultCategory_withCategory (config : Config) (category : String) :
    (config.withCategory category).defaultCategory = category := rfl

theorem Valid.withCategory {config : Config} (valid : config.Valid) (category : String) :
    (config.withCategory category).Valid :=
  ⟨valid.translator_ne_nil, valid.trimmed⟩

section Overriding

variable {Other Problem : Type} {validator : Validator Other Problem}

theorem valid_of_source? {given : Given Other SourceText} {config : Config}
    (reads : validator.source? checkTranslator given = some config.translator) : config.Valid := by
  obtain ⟨source, _, passes⟩ := Option.bind_eq_some_iff.mp reads
  cases checked : checkTranslator source with
  | error reason =>
    rw [checked] at passes
    cases passes
  | ok fragment =>
    rw [checked] at passes
    obtain rfl := Option.some.inj passes
    exact valid_of_checkTranslator checked

variable (lawful : validator.Lawful)
include lawful

theorem valid_of_ofProperties {properties : Properties Other} {config : Config}
    (reads : ofProperties validator properties = .ok config) : config.Valid := by
  cases properties with
  | mistyped => exact absurd reads (lawful.needs_dictionary _ _ _)
  | dictionary fields =>
    have translator := lawful.reads_translator reads
    unfold Validator.translator? at translator
    split at translator
    · have same : config.translator = default.translator := (Option.some.inj translator).symm
      exact ⟨same ▸ valid_default.translator_ne_nil, same ▸ valid_default.trimmed⟩
    · exact valid_of_source? translator

/-- **What it takes to replace values of a valid configuration**: what is given has to be taken for
texts, and the rest of the configuration stays as it is. -/
theorem Valid.override_eq_ok_iff {config replaced : Config} (valid : config.Valid)
    {defaultCategory : Option (Given Other String)} {translator : Option (Given Other SourceText)} :
    config.override validator defaultCategory translator = .ok replaced ↔
      validator.text? (defaultCategory.getD (.text config.defaultCategory)) =
          some replaced.defaultCategory ∧
        validator.source? checkTranslator (translator.getD (.text config.translator)) =
          some replaced.translator := by
  rw [override]
  split
  · rename_i none
    obtain ⟨noCategory, noTranslator⟩ := Bool.and_eq_true_iff.mp none
    have kept : validator.source? checkTranslator (.text config.translator) =
        some config.translator := by
      show (checkTranslator config.translator).toOption = _
      rw [valid.checkTranslator_eq]
      rfl
    rw [Option.isNone_iff_eq_none.mp noCategory, Option.isNone_iff_eq_none.mp noTranslator,
      Option.getD_none, Option.getD_none, kept]
    obtain ⟨category, fragment⟩ := replaced
    obtain ⟨keptCategory, keptFragment⟩ := config
    simp [Validator.text?, Given.read?]
  · rw [ofProperties, lawful.validate_eq_ok_iff]
    exact ⟨fun all => all.2, fun both => ⟨rfl, both⟩⟩

section Replaced

variable {config replaced : Config} (valid : config.Valid)
  {defaultCategory : Option (Given Other String)} {translator : Option (Given Other SourceText)}
  (overrides : config.override validator defaultCategory translator = .ok replaced)
include valid overrides

theorem Valid.of_override : replaced.Valid :=
  valid_of_source? ((valid.override_eq_ok_iff lawful).mp overrides).2

/-- **Another category may be given in place of the one that was replaced**, and all else stays. -/
theorem Valid.override_text (category : String) :
    config.override validator (some (.text category)) translator =
      .ok (replaced.withCategory category) :=
  (valid.override_eq_ok_iff lawful).mpr ⟨rfl, ((valid.override_eq_ok_iff lawful).mp overrides).2⟩

end Replaced

section Category

variable {config : Config} (valid : config.Valid) {value : Given Other String}
include valid

/-- **A category may be replaced by whatever is taken for a text**, and all else stays. -/
theorem Valid.override_category {category : String} (reads : validator.text? value = some category) :
    config.override validator (some value) none = .ok (config.withCategory category) := by
  have unchanged : config.override validator none none = .ok config := rfl
  exact (valid.override_eq_ok_iff lawful).mpr
    ⟨reads, ((valid.override_eq_ok_iff lawful).mp unchanged).2⟩

/-- Nothing else can replace it. -/
theorem Valid.exists_problems (unread : validator.text? value = none) :
    ∃ problems, config.override validator (some value) none = .error problems := by
  cases overrides : config.override validator (some value) none with
  | error problems => exact ⟨problems, rfl⟩
  | ok replaced =>
    have reads := ((valid.override_eq_ok_iff lawful).mp overrides).1
    exact absurd (unread.symm.trans reads) (Option.some_ne_none _).symm

end Category

end Overriding

end Config

end MessageHarvest
