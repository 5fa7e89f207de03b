/-
**Extractors.**

An extractor is made from a configuration and a tokeniser, with which the pattern is compiled once
and for all. It then answers requests: to extract the messages of a stream or of source text, and to
change the default category, for which the whole configuration is validated again. Between requests
it remembers the calls that the last extraction skipped.

* `Extractor.create` — the extractor of a configuration.
* `Extractor.answer` — the answer to a request, and the extractor after it.
-/

import MessageHarvest.Config
import MessageHarvest.Pattern.Fragment
import MessageHarvest.Scan

namespace MessageHarvest

/-- A configuration with its compiled pattern, and the calls skipped by the last extraction. -/
structure Extractor (Error : Type) where
  config : Config
  tokeniser : Tokeniser Error
  pattern : Pattern
  skipped : List SkippedCall

namespace Extractor

variable {Other Problem Error : Type}

/-! ### Creation -/

/-- Why there is no extractor. -/
inductive CreateError (Problem Error : Type) where
  | config (problems : List Problem)
  | compile (error : CompileError Error)
deriving DecidableEq, Repr

/-- The extractor of a configuration. -/
def ofConfig (config : Config) (tokeniser : Tokeniser Error) :
    Logged (Except (CreateError Problem Error) (Extractor Error)) := do
  match ← Pattern.compile config.translator tokeniser with
  | .error error => return .error (.compile error)
  | .ok pattern => return .ok { config, tokeniser, pattern, skipped := [] }

/-- The configuration of properties, if there are any, in which some values are replaced. -/
def settings (validator : Validator Other Problem) (properties : Option (Properties Other))
    (defaultCategory : Option (Given Other String)) (translator : Option (Given Other SourceText)) :
    Except (List Problem) Config := do
  let config ← (properties.map (Config.ofProperties validator)).getD (.ok Config.default)
  config.override validator defaultCategory translator

/-- The extractor of properties, if there are any, in which some values are replaced. -/
def create (validator : Validator Other Problem) (properties : Option (Properties Other))
    (defaultCategory : Option (Given Other String)) (translator : Option (Given Other SourceText))
    (tokeniser : Tokeniser Error) : Logged (Except (CreateError Problem Error) (Extractor Error)) :=
  match settings validator properties defaultCategory translator with
  | .error problems => return .error (.config problems)
  | .ok config => ofConfig config tokeniser

/-! ### Requests -/

/-- Some call was skipped by the last extraction. -/
def hasSkipped (extractor : Extractor Error) : Bool :=
  !extractor.skipped.isEmpty

/-- What can be asked of an extractor. -/
inductive Request (Other : Type) where
  | messages (tokens : List Token)
  | extraction (tokens : List Token)
  | sourceMessages (source : SourceText)
  | setDefaultCategory (value : Given Other String)

/-- What an extractor answers. -/
inductive Reply where
  | messages (catalogue : Catalogue)
  | extraction (extraction : Extraction)
  | done
deriving DecidableEq, Repr

/-- Why a request cannot be answered. -/
inductive RequestError (Problem Error : Type) where
  | config (problems : List Problem)
  | tokeniser (error : Error)
deriving DecidableEq, Repr

/-- The extraction of a stream, which closes with a summary, and the extractor after it. -/
def extract (extractor : Extractor Error) (tokens : List Token) :
    Logged (Extraction × Extractor Error) := do
  let extraction ← scan extractor.pattern extractor.config.defaultCategory tokens
  Logged.notify extraction.summary
  return (extraction, { extractor with skipped := extraction.skipped })

/-- The answer to a request, and the extractor after it. The skipped calls are forgotten before
source text is tokenised. -/
def answer (validator : Validator Other Problem) (extractor : Extractor Error) :
    Request Other → Logged (Except (RequestError Problem Error) Reply × Extractor Error)
  | .messages tokens => do
    let (extraction, extractor) ← extractor.extract tokens
    return (.ok (.messages extraction.catalogue), extractor)
  | .extraction tokens => do
    let (extraction, extractor) ← extractor.extract tokens
    return (.ok (.extraction extraction), extractor)
  | .sourceMessages source => do
    let extractor := { extractor with skipped := [] }
    match ← extractor.tokeniser source with
    | .error error => return (.error (.tokeniser error), extractor)
    | .ok tokens =>
      let (extraction, extractor) ← extractor.extract tokens
      return (.ok (.messages extraction.catalogue), extractor)
  | .setDefaultCategory value =>
    match extractor.config.override validator (some value) none with
    | .error problems => return (.error (.config problems), extractor)
    | .ok config => return (.ok .done, { extractor with config })

end Extractor

end MessageHarvest
