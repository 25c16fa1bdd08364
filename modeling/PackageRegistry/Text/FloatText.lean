import PackageRegistry.Text.Integer
/-!
# Numbers written with a fraction or an exponent

Whether text reads as a floating-point number: an optional sign, then `inf`, `infinity` or `nan`,
or digits with an optional point and exponent; digits of any script, single underscores between.
-/

namespace PackageRegistry.Text

/-- Whether a run of digits is one: digits with single underscores between them. -/
def isDigitRun (cs : List Char) : Bool := (digitRun cs).isSome

/-- Whether text is a mantissa: digits with an optional point, digits on at least one side. -/
def isMantissa (cs : List Char) : Bool :=
  match cs.splitOn '.' with
  | [whole] => isDigitRun whole
  | [whole, fraction] =>
    (whole.isEmpty || isDigitRun whole) && (fraction.isEmpty || isDigitRun fraction) &&
      !(whole.isEmpty && fraction.isEmpty)
  | _ => false

/-- Whether text after an `e` is an exponent: an optional sign and digits. -/
def isExponent : List Char → Bool
  | '+' :: ds => isDigitRun ds
  | '-' :: ds => isDigitRun ds
  | ds => isDigitRun ds

/-- Whether unsigned text is a mantissa with an optional exponent. -/
def isUnsignedDecimal (cs : List Char) : Bool :=
  let mantissa := cs.takeWhile fun c => c != 'e' && c != 'E'
  match cs.drop mantissa.length with
  | [] => isMantissa mantissa
  | _ :: exponent => isMantissa mantissa && isExponent exponent

/-- Whether text reads as a floating-point number. -/
def isFloatText (s : String) : Bool :=
  let cs := trimBlanks s.toList
  let body := match cs with
    | '+' :: rest => rest
    | '-' :: rest => rest
    | _ => cs
  let word := String.ofList (body.map Char.toLower)
  word == "inf" || word == "infinity" || word == "nan" || isUnsignedDecimal body

end PackageRegistry.Text
