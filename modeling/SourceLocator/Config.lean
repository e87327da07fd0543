import SourceLocator.Declaration
import SourceLocator.NamePattern
import SourceLocator.Text.Blank
import SourceLocator.Validation

/-!
# Configuration

A `Config` says which files are sources, which of them are resource-mapping files, and what
a declaration looks like.  `Config.ofFields` reads one from given values, field by field and
each field by itself: a field that is absent has its default, and one that is not valid gives
one detail.  Reading a pattern can also fail for a count that is too large, which ends the
reading of all fields.  `Config.declarationPattern` writes down what `Config.declares` tests lines
for, as a pattern.
-/

namespace SourceLocator

open Text

/-- The conventions by which files are found and classified. -/
structure Config where
  extension : String
  resourceName : NamePattern
  keyword : String
  closing : Closing
  followLinks : Bool

/-- The extension of sources unless another is asked for. -/
def defaultExtension : String := ".java"

/-- The configuration with nothing asked for. -/
def Config.default : Config where
  extension := defaultExtension
  resourceName := .resource
  keyword := "package"
  closing := .anything
  followLinks := false

/-- Why no configuration can be had. -/
inductive ConfigFailure where
  | invalid (details : List Detail)
  | countTooLarge

/-- What is said of a count that is too large. -/
def countTooLargeMessage : String := "the repetition number is too large"

/-- What is said of a count with too many digits. -/
def countTooLongMessage (digits : Nat) : String :=
  "Exceeds the limit (" ++ toString NamePattern.longestNumber
    ++ " digits) for integer string conversion: value has " ++ toString digits
    ++ " digits; use sys.set_int_max_str_digits() to increase the limit"

/-- Why a pattern cannot be had. -/
inductive PatternFailure where
  | complaint (c : Complaint)
  | countTooLarge

/-- What is written between the package and the semicolon. -/
def Closing.written : Closing → List Char
  | .anything => ['.', '*']
  | .exact => ['\\', 's', '*']

/-- The pattern that is written for a declaration. -/
def declarationPattern (closing : Closing) (keyword package : List Char) : List Char :=
  NamePattern.escape keyword
    ++ (['\\', 's', '+'] ++ (NamePattern.escape package ++ (closing.written ++ [';'])))

namespace Config

/-- Reads the extension, a dot with something after it. -/
def readExtension : Option FieldValue → Except Complaint String
  | none => .ok default.extension
  | some v =>
    v.asText.bind fun s =>
      match s.toList with
      | '.' :: _ :: _ => .ok s
      | _ => .error (.refused ("Extension must look like '.java', got " ++ quoted s))

/-- The complaint or the failure that a rejected pattern leads to. -/
def patternFailure (written : String) : NamePattern.Rejection → PatternFailure
  | .malformed m =>
    .complaint (.refused
      ("Invalid resource name pattern " ++ quoted written ++ ": "
        ++ m.message written.toList))
  | .twoCharacterSets =>
    .complaint (.refused "ASCII and UNICODE flags are incompatible")
  | .countTooLong digits => .complaint (.refused (countTooLongMessage digits))
  | .countTooLarge => .countTooLarge

/-- Reads the pattern of resource names. -/
def readPattern : Option FieldValue → Except PatternFailure NamePattern
  | none => .ok default.resourceName
  | some v =>
    match v.asText with
    | .error c => .error (.complaint c)
    | .ok s => (NamePattern.ofString s).mapError (patternFailure s)

/-- Reads the keyword, which is kept without the blanks around it. -/
def readKeyword : Option FieldValue → Except Complaint String
  | none => .ok default.keyword
  | some v =>
    v.asText.bind fun s =>
      if isAllBlank s.toList then .error (.refused "Declaration keyword must not be blank")
      else .ok (String.ofList (strip s.toList))

/-- Reads a truth value that is false unless given. -/
def readTruth : Option FieldValue → Except Complaint Bool
  | none => .ok false
  | some v => v.asTruth

/-- How declarations are closed when an exact match is asked for or not. -/
def closingFor (exact : Bool) : Closing :=
  if exact then .exact else .anything

/-- Reads a configuration from given values. -/
def ofFields (fields : Fields) : Except ConfigFailure Config :=
  let extension := readExtension (fields.lookup "extension")
  let keyword := readKeyword (fields.lookup "declaration_keyword")
  let exact := readTruth (fields.lookup "exact_package")
  let links := readTruth (fields.lookup "follow_symlinks")
  match readPattern (fields.lookup "resource_name_pattern") with
  | .error .countTooLarge => .error .countTooLarge
  | .error (.complaint c) =>
    .error (.invalid
      (detailsOf "extension" extension
        ++ [⟨"resource_name_pattern", c⟩]
        ++ detailsOf "declaration_keyword" keyword
        ++ detailsOf "exact_package" exact
        ++ detailsOf "follow_symlinks" links))
  | .ok pattern =>
    match extension, keyword, exact, links with
    | .ok extension, .ok keyword, .ok exact, .ok links =>
      .ok ⟨extension, pattern, keyword, closingFor exact, links⟩
    | _, _, _, _ =>
      .error (.invalid
        (detailsOf "extension" extension
          ++ detailsOf "declaration_keyword" keyword
          ++ detailsOf "exact_package" exact
          ++ detailsOf "follow_symlinks" links))

/-- Whether a line declares a package. -/
def declares (config : Config) (package : String) (line : List Char) : Bool :=
  SourceLocator.declares config.closing config.keyword.toList package.toList line

/-- The pattern that is written for a declaration under a configuration. -/
def declarationPattern (config : Config) (package : String) : String :=
  String.ofList
    (SourceLocator.declarationPattern config.closing config.keyword.toList package.toList)

/-- Whether an exact match of the package is asked for. -/
def isExact (config : Config) : Bool :=
  config.closing == .exact

end Config

end SourceLocator
