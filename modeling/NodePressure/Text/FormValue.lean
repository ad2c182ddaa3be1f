import NodePressure.Text.Utf8
import NodePressure.Text.Quoted

/-!
# NodePressure.Text.FormValue - values in the query of an address

A form value keeps ASCII letters, digits and `*-._`, writes a space as a plus sign and every other
byte of the UTF-8 form as a percent sign and two upper-case hexadecimal digits.
-/

namespace NodePressure.Text

/-- A byte as a percent sign and two hexadecimal digits. -/
def percent (b : Nat) : List Char :=
  let digit (n : Nat) : Char := ((Nat.toDigits 16 n).headD '0').toUpper
  ['%', digit (b / 16), digit (b % 16)]

/-- Whether a form value keeps the character. -/
def isFormPlain (c : Char) : Bool :=
  c.isAlphanum || c == '*' || c == '-' || c == '.' || c == '_'

/-- A character in a form value. -/
def formChar (c : Char) : List Char :=
  if isFormPlain c then [c]
  else if c == ' ' then ['+']
  else (encodeChar c).flatMap percent

/-- A text as a form value. -/
def formValue (s : String) : String :=
  String.ofList (s.toList.flatMap formChar)

end NodePressure.Text
