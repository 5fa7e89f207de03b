/-
**A lenient validator.**

The validator takes a text for a text, and bytes for the text that they encode. A value of any other
type, bytes that encode no text, a translator that is refused and a property that does not exist are
problems, and all of them are reported together.

* `Validator.lenient` — the validator.
* `Config.Problem` — what it reports.
-/

import MessageHarvest.Config

namespace MessageHarvest

/-- A value that is no text: bytes, or something that is never taken for a text. -/
inductive Foreign where
  | bytes (encoded : ByteArray)
  | unreadable

namespace Config

/-! ### Problems -/

/-- What can be wrong with properties. -/
inductive Problem where
  | mistypedValue (key : String)
  | undecodableValue (key : String)
  | refusedTranslator (reason : String)
  | unknownKey (key : String)
  | mistypedProperties
deriving DecidableEq, Repr

namespace Problem

/-- The class of a problem. -/
def code : Problem → String
  | mistypedValue _ => "string_type"
  | undecodableValue _ => "string_unicode"
  | refusedTranslator _ => "value_error"
  | unknownKey _ => "extra_forbidden"
  | mistypedProperties => "model_type"

/-- The names of the properties that a problem is about. -/
def location : Problem → List String
  | mistypedValue key => [key]
  | undecodableValue key => [key]
  | refusedTranslator _ => [Fields.translatorKey]
  | unknownKey key => [key]
  | mistypedProperties => []

/-- The wording of a problem. -/
def message : Problem → String
  | mistypedValue _ => "Input should be a valid string"
  | undecodableValue _ =>
    "Input should be a valid string, unable to parse raw data as a unicode string"
  | refusedTranslator reason => "Value error, " ++ reason
  | unknownKey _ => "Extra inputs are not permitted"
  | mistypedProperties => "Input should be a valid dictionary or instance of MessageExtractorConfig"

end Problem

end Config

namespace Foreign

/-- The text that bytes encode. -/
def text? : Foreign → Option String
  | bytes encoded => String.fromUTF8? encoded
  | unreadable => none

/-- What is wrong with a value under a key that is not taken for a text. -/
def problem (key : String) : Foreign → Config.Problem
  | bytes _ => .undecodableValue key
  | unreadable => .mistypedValue key

end Foreign

namespace Validator

open Config (Problem)

/-- The text under a key, which bytes may encode. -/
def readText {Text : Type} (ofString : String → Text) (key : String) :
    Given Foreign Text → Except Problem Text
  | .text value => .ok value
  | .other value =>
    match value.text? with
    | none => .error (value.problem key)
    | some text => .ok (ofString text)

/-- The category, which is a text. -/
def readCategory (default : String) : Option (Given Foreign String) → Except Problem String
  | none => .ok default
  | some given => readText id Fields.defaultCategoryKey given

/-- The translator, which is a text that passes a check. -/
def readTranslator (default : SourceText) (check : SourceText → Except String SourceText) :
    Option (Given Foreign SourceText) → Except Problem SourceText
  | none => .ok default
  | some given => do
    let value ← readText SourceText.ofString Fields.translatorKey given
    (check value).mapError .refusedTranslator

/-- The problem of a value that could not be read. -/
def problemsOf {Value : Type} : Except Problem Value → List Problem
  | .ok _ => []
  | .error problem => [problem]

/-- The validator that takes bytes for the text that they encode. -/
def lenient : Validator Foreign Problem where
  convert? := Foreign.text?
  validate default check
    | .mistyped => .error [.mistypedProperties]
    | .dictionary fields =>
      match readCategory default.defaultCategory fields.defaultCategory,
        readTranslator default.translator check fields.translator, fields.unknownKeys with
      | .ok defaultCategory, .ok translator, [] => .ok { defaultCategory, translator }
      | category, translator, unknownKeys =>
        .error (problemsOf category ++ problemsOf translator ++ unknownKeys.map .unknownKey)

end Validator

end MessageHarvest
