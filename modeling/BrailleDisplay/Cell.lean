import BrailleDisplay.Text.Layout

/-!
# Braille cells and dots

A cell is a byte with one bit for each of its eight dots: dot `n` is bit `n - 1` (ISO 11548-1).
Displays may wire their dots differently; a `DotWiring` gives the device bit of each dot.

* `DotWiring.drive` — a cell as the device wants it: the bits of the dots that are set;
* `DotWiring.isOneToOne` — each dot has one bit of its own;
* `cellOfDots` / `dotsOfCell` — a cell written as its dot numbers, as in `1245`, with `0` for a
  blank cell.
-/

namespace BrailleDisplay

/-- Dots in a cell. -/
def dotCount : Nat := 8

/-- Whether dot `d + 1` of a cell is set. -/
def hasDot (cell : UInt8) (d : Nat) : Bool :=
  cell.toNat.testBit d

/-! ### Wirings -/

/-- The device bit of each dot, dot 1 first. -/
structure DotWiring where
  /-- One byte for each dot. -/
  bits : Vector UInt8 dotCount
  deriving DecidableEq, Repr

namespace DotWiring

/-- The order of ISO 11548-1: dot `n` drives bit `n - 1`. -/
def iso : DotWiring :=
  ⟨#v[0x01, 0x02, 0x04, 0x08, 0x10, 0x20, 0x40, 0x80]⟩

/-- The wiring with the given bits, dot 1 first, if there are eight. -/
def ofList? (bits : List UInt8) : Option DotWiring :=
  if complete : bits.length = dotCount then some ⟨⟨bits.toArray, by simpa using complete⟩⟩ else none

/-- Whether exactly one bit of a byte is set. -/
def isSingleBit (b : UInt8) : Bool :=
  (List.range 8).countP b.toNat.testBit == 1

/-- Whether every byte has one bit, which neither `seen` nor an earlier byte has. -/
def areDistinctBits (seen : UInt8) : List UInt8 → Bool
  | [] => true
  | b :: rest => isSingleBit b && (seen &&& b) == 0 && areDistinctBits (seen ||| b) rest

/-- Whether each dot has one bit and no two dots share a bit. -/
def isOneToOne (wiring : DotWiring) : Bool :=
  areDistinctBits 0 wiring.bits.toList

/-- The device's cell for a logical cell: the bits of all dots that are set. -/
def drive (wiring : DotWiring) (cell : UInt8) : UInt8 :=
  (List.finRange dotCount).foldl
    (fun sum (d : Fin dotCount) => if hasDot cell d then sum ||| wiring.bits[d] else sum) 0

/-- The device's cells for a window. -/
def driveAll (wiring : DotWiring) (cells : List UInt8) : List UInt8 :=
  cells.map wiring.drive

end DotWiring

/-! ### Cells as dot numbers -/

/-- Why a text is no cell. -/
inductive CellFault where
  /-- There is no character. -/
  | empty
  /-- `character` is not a digit from 1 to 8; it is the first such in `text`. -/
  | notADot (text : String) (character : Char)
  deriving DecidableEq, Repr

/-- The sentence shown for a text that is no cell. -/
def CellFault.message : CellFault → String
  | empty => "empty cell"
  | notADot text character =>
    "'" ++ text ++ "': '" ++ String.singleton character ++ "' is not a dot number (1-8)"

/-- The bit of the dot a digit names. -/
def dotBit? (c : Char) : Option UInt8 :=
  if '1' ≤ c ∧ c ≤ '8' then some (1 <<< UInt8.ofNat (c.toNat - '1'.toNat)) else none

/-- The union of the dots named by the characters; on failure, the first that names none. -/
def gatherDots (cell : UInt8) : List Char → Except Char UInt8
  | [] => .ok cell
  | c :: rest =>
    match dotBit? c with
    | some bit => gatherDots (cell ||| bit) rest
    | none => .error c

/-- Read a cell written as dot numbers, in any order and however often each; `0` is blank. -/
def cellOfDots (text : String) : Except CellFault UInt8 :=
  if text = "0" then .ok 0
  else if text = "" then .error .empty
  else (gatherDots 0 text.toList).mapError (.notADot text)

/-- Write a cell as its dot numbers in ascending order, `0` when it is blank. -/
def dotsOfCell (cell : UInt8) : String :=
  if cell = 0 then "0"
  else
    String.ofList
      (((List.range dotCount).filter (hasDot cell)).map fun d => Char.ofNat ('1'.toNat + d))

end BrailleDisplay
