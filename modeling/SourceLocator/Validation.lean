import SourceLocator.Text.Ascii

/-!
# Validating values

The values of settings come from outside as `FieldValue`s of any kind.  Each field has a
reader that accepts a value or says what is wrong with it by a `Complaint`; a record is valid
when all its fields are, and otherwise all complaints are reported together, as `Detail`s in
the order of the fields.
-/

namespace SourceLocator

/-- A value given for a field.  A fraction is the value of a floating-point number, which is always
some `mantissa * 10 ^ exponent`, and not the decimal it was written as before it was rounded. -/
inductive FieldValue where
  | null
  | truth (b : Bool)
  | whole (n : Int)
  | fraction (mantissa exponent : Int)
  | text (s : String)
  | list
  | record

/-- What is wrong with the value of a field. -/
inductive Complaint where
  | missing
  | notText
  | notPath
  | notTruth
  | unclearTruth
  | refused (reason : String)
  | frozen
deriving DecidableEq

/-- The word for a kind of complaint. -/
def Complaint.kind : Complaint → String
  | .missing => "missing"
  | .notText => "string_type"
  | .notPath => "path_type"
  | .notTruth => "bool_type"
  | .unclearTruth => "bool_parsing"
  | .refused _ => "value_error"
  | .frozen => "frozen_instance"

/-- The wording of a complaint on its own. -/
def Complaint.reason : Complaint → String
  | .missing => "Field required"
  | .notText => "Input should be a valid string"
  | .notPath => "Input is not a valid path for <class 'pathlib.Path'>"
  | .notTruth => "Input should be a valid boolean"
  | .unclearTruth => "Input should be a valid boolean, unable to interpret input"
  | .refused reason => reason
  | .frozen => "Instance is frozen"

/-- The wording of a complaint in a list of details. -/
def Complaint.message : Complaint → String
  | .refused reason => "Value error, " ++ reason
  | c => c.reason

/-- A complaint about a field. -/
structure Detail where
  field : String
  complaint : Complaint
deriving DecidableEq

/-- What is said of values that are not valid: the first complaint. -/
def firstReason (details : List Detail) : String :=
  (details.head?.map (·.complaint.reason)).getD ""

/-- The complaint about changing a field of valid settings, which cannot be done. -/
def frozenField (field : String) : List Detail :=
  [⟨field, .frozen⟩]

/-- The values given, by field. -/
abbrev Fields := List (String × FieldValue)

/-- The details to report about a field that was read. -/
def detailsOf {α : Type} (field : String) : Except Complaint α → List Detail
  | .ok _ => []
  | .error c => [⟨field, c⟩]

namespace FieldValue

/-- A value as a text. -/
def asText : FieldValue → Except Complaint String
  | .text s => .ok s
  | _ => .error .notText

/-- The words for no and for yes. -/
def truthWords : List (String × Bool) :=
  [("0", false), ("off", false), ("f", false), ("false", false), ("n", false), ("no", false),
   ("1", true), ("on", true), ("t", true), ("true", true), ("y", true), ("yes", true)]

/-- Whole numbers from `-wordBound` up to `wordBound`, without the latter, fit a word. -/
def wordBound : Int := 9223372036854775808

/-- A power of ten. -/
def powerOfTen (n : Nat) : Int := Int.ofNat (Nat.pow 10 n)

/-- A value as a truth value: the numbers nought and one and a dozen words stand for one. -/
def asTruth : FieldValue → Except Complaint Bool
  | .truth b => .ok b
  | .whole n =>
    if n = 0 then .ok false
    else if n = 1 then .ok true
    else if -wordBound ≤ n ∧ n < wordBound then .error .unclearTruth
    else .error .notTruth
  | .fraction mantissa exponent =>
    if mantissa = 0 then .ok false
    else if mantissa * powerOfTen exponent.toNat = powerOfTen (-exponent).toNat then .ok true
    else .error .notTruth
  | .text s =>
    match truthWords.lookup s.toLower with
    | some b => .ok b
    | none => .error .unclearTruth
  | _ => .error .notTruth

end FieldValue

end SourceLocator
