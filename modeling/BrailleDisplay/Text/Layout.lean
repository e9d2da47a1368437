/-!
# Padding text to a width

Reports and traffic lines align their columns by padding with blanks or zeros.

* `padLeft` / `padRight` — text padded to a width, on either side;
* `decimalWidth` — a number in decimal, right-aligned in a column.

Text already wider than the column is left as it is.
-/

namespace BrailleDisplay.Text

/-- The text with as many `fill` characters in front as it lacks to `width`. -/
def padLeft (width : Nat) (fill : Char) (text : String) : String :=
  String.ofList (text.toList.leftpad width fill)

/-- The text with as many `fill` characters behind as it lacks to `width`. -/
def padRight (width : Nat) (fill : Char) (text : String) : String :=
  String.ofList (text.toList.rightpad width fill)

/-- A number in decimal, right-aligned in `width` columns. -/
def decimalWidth (width n : Nat) : String :=
  padLeft width ' ' (toString n)

end BrailleDisplay.Text
