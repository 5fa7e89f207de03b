/-
**Configuration.**

A configuration names the category of messages whose call gives none, and the fragment of source
that announces a translator call. It comes of properties, which are given as values of any type. A
validator decides what they are good for. It is not part of this library: it is told the settings
that hold where nothing is given and how a translator is checked, and it answers with a configuration
or with all that is wrong with the properties.

A category is made of characters, so that it holds no lone halves of surrogate pairs. A translator is
source text, which may hold them.

* `Validator` — what a validator does.
* `Config.ofProperties`, `Config.override` — the configuration of properties, and a configuration in
  which some values are replaced.
-/

import MessageHarvest.Text.Blank

namespace MessageHarvest

/-- The settings of an extractor. -/
structure Config where
  defaultCategory : String
  translator : SourceText
deriving DecidableEq, Repr

/-! ### Properties -/

/-- A value given for a text: a text, or a value of another type. -/
inductive Given (Other Text : Type) where
  | text (value : Text)
  | other (value : Other)
deriving DecidableEq, Repr

namespace Given

variable {Other First Second : Type}

/-- The given value with its text changed. -/
def map (change : First → Second) : Given Other First → Given Other Second
  | text value => text (change value)
  | other value => other value

/-- The text that a given value is taken for, where values of other types may be converted. -/
def read? (convert? : Other → Option First) : Given Other First → Option First
  | text value => some value
  | other value => convert? value

end Given

/-- A dictionary of properties: the values given for those that exist, and the names of the others. -/
structure Fields (Other : Type) where
  defaultCategory : Option (Given Other String)
  translator : Option (Given Other SourceText)
  unknownKeys : List String
deriving DecidableEq, Repr

namespace Fields

/-- The name of the property for the default category. -/
def defaultCategoryKey : String := "default_category"

/-- The name of the property for the translator. -/
def translatorKey : String := "translator"

variable {Other : Type}

/-- The dictionary of named values. Of two values under one name the last counts, and the names of
properties that do not exist are kept in order of first appearance. -/
def ofEntries (entries : List (String × Given Other String)) : Fields Other where
  defaultCategory := entries.reverse.lookup defaultCategoryKey
  translator := (entries.reverse.lookup translatorKey).map (Given.map SourceText.ofString)
  unknownKeys := ((entries.map Prod.fst).filter fun key =>
    key != defaultCategoryKey && key != translatorKey).eraseDups

end Fields

/-- Properties as they are given: a dictionary, or a value that is neither a dictionary nor a
configuration. -/
inductive Properties (Other : Type) where
  | dictionary (fields : Fields Other)
  | mistyped
deriving DecidableEq, Repr

/-! ### Validation -/

/-- What turns properties into configurations. -/
structure Validator (Other Problem : Type) where
  /-- The text that a value of another type is taken for, if it is taken for one. -/
  convert? : Other → Option String
  /-- The configuration that properties describe, or all that is wrong with them, given the settings
  that hold where nothing is given and the check of a translator, which may refuse it for a reason. -/
  validate : (default : Config) → (check : SourceText → Except String SourceText) →
    Properties Other → Except (List Problem) Config

namespace Config

variable {Other Problem : Type}

/-- The settings that hold where nothing else is given. -/
def default : Config where
  defaultCategory := ""
  translator := SourceText.ofString "->translate"

/-- The fragment of a translator without the blanks around it, if anything is left of it. -/
def checkTranslator (value : SourceText) : Except String SourceText :=
  if value.trim.isEmpty then
    .error "Translator must be a non-empty source fragment"
  else
    .ok value.trim

/-- The configuration that properties describe. -/
def ofProperties (validator : Validator Other Problem) (properties : Properties Other) :
    Except (List Problem) Config :=
  validator.validate default checkTranslator properties

/-- The configuration with some values replaced. Nothing is read again where nothing is replaced. -/
def override (validator : Validator Other Problem) (config : Config)
    (defaultCategory : Option (Given Other String)) (translator : Option (Given Other SourceText)) :
    Except (List Problem) Config :=
  if defaultCategory.isNone && translator.isNone then
    .ok config
  else
    ofProperties validator (.dictionary
      { defaultCategory := some (defaultCategory.getD (.text config.defaultCategory))
        translator := some (translator.getD (.text config.translator))
        unknownKeys := [] })

end Config

end MessageHarvest
