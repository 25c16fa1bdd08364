import PackageRegistry.Text.Blank
import PackageRegistry.Text.Digit
import PackageRegistry.Text.Quoted
/-!
# Integers written in decimal

The whole-number reading of configuration values, query parameters and version parts: an
optional sign, decimal digits of any script, single underscores between; over 4300 digits is
refused.
-/

namespace PackageRegistry.Text

/-- Why text is not a decimal integer. -/
inductive IntegerTextError where
  /-- The text does not have the form of a decimal integer. -/
  | malformed (text : String)
  /-- The digits are more than the 4300 that are read. -/
  | tooManyDigits (count : Nat)
  deriving Repr, BEq, DecidableEq

/-- The largest number of digits that is read. -/
def maxIntegerDigits : Nat := 4300

/-- The message of a refused digit count. -/
def IntegerTextError.message : IntegerTextError → String
  | .malformed text => "invalid literal for int() with base 10: " ++ quoted text
  | .tooManyDigits count =>
    "Exceeds the limit (" ++ toString maxIntegerDigits ++
      " digits) for integer string conversion: value has " ++ toString count ++
      " digits; use sys.set_int_max_str_digits() to increase the limit"

/-- The digits of a run where single underscores may separate two digits; none when one starts,
ends or doubles. -/
def digitRun : List Char → Option (List Nat)
  | [] => none
  | [c] => (decimalValue? c).map fun d => [d]
  | c :: '_' :: rest =>
    match decimalValue? c, digitRun rest with
    | some d, some ds => some (d :: ds)
    | _, _ => none
  | c :: rest =>
    match decimalValue? c, digitRun rest with
    | some d, some ds => some (d :: ds)
    | _, _ => none

/-- The number that digit values stand for, most significant first. -/
def valueOfDigits (ds : List Nat) : Nat :=
  ds.foldl (fun acc d => acc * 10 + d) 0

/-- Reads an unsigned run of digits of the text `s`, refusing one longer than the limit. -/
def readDigitRun (s : String) (cs : List Char) : Except IntegerTextError Nat :=
  match digitRun cs with
  | none => .error (.malformed s)
  | some ds =>
    if ds.length > maxIntegerDigits then .error (.tooManyDigits ds.length)
    else .ok (valueOfDigits ds)

/-- Reads a decimal integer, with blanks around it and an optional sign. -/
def readInteger (s : String) : Except IntegerTextError Int :=
  match trimBlanks s.toList with
  | '-' :: rest => (readDigitRun s rest).map fun n => -Int.ofNat n
  | '+' :: rest => (readDigitRun s rest).map Int.ofNat
  | cs => (readDigitRun s cs).map Int.ofNat

/-- A decimal integer, or nothing when the text is not one. -/
def readInteger? (s : String) : Option Int :=
  match readInteger s with
  | .ok n => some n
  | .error _ => none

end PackageRegistry.Text
