/-!
# TOML values

* `Toml.Value` — what a TOML document says; numbers that are no integers and dates are kept as they
  are written, since nothing is computed with them;
* `Toml.Fault` — why a text is no TOML document, or a document not what its reader wants.
-/

namespace BrailleDisplay.Toml

/-- A value of a TOML document. -/
inductive Value where
  | text (value : String)
  | integer (value : Int)
  /-- A floating-point number, as written. -/
  | real (written : String)
  | boolean (value : Bool)
  /-- A date, a time or both, as written. -/
  | moment (written : String)
  | array (items : List Value)
  | table (entries : List (String × Value))

/-- Why a text is no TOML document, or not the one wanted. -/
inductive Fault where
  /-- Something else had to stand here; `left` characters follow. -/
  | expected (what : String) (left : Nat)
  /-- A number is too large, or a date does not exist. -/
  | outOfRange (written : String)
  /-- A key is given twice, or a table opened a second time. -/
  | duplicateKey (key : String)
  /-- A key leads through something that is no table. -/
  | notATable (key : String)
  /-- Values or keys are nested too deeply. -/
  | tooDeep
  /-- A value is of the wrong kind. -/
  | wrongKind (wanted : String)
  /-- A field is not known. -/
  | unknownField (name : String)
  /-- A field is missing. -/
  | missingField (name : String)
  deriving DecidableEq, Repr

/-- The sentence shown for a fault. -/
def Fault.message : Fault → String
  | expected what left => s!"expected {what}, with {left} characters left"
  | outOfRange written => "out of range: " ++ written
  | duplicateKey key => "duplicate key: " ++ key
  | notATable key => "not a table: " ++ key
  | tooDeep => "nested too deeply"
  | wrongKind wanted => "expected " ++ wanted
  | unknownField name => "unknown field: " ++ name
  | missingField name => "missing field: " ++ name

end BrailleDisplay.Toml
