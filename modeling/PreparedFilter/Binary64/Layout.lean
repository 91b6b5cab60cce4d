import PreparedFilter.Binary64.Shortest

/-!
# The text of a number

A `Layout` holds the decisions of one format: which numbers are written positionally and which with
an exponent. The digits are always the shortest ones (`Binary64.shortest`). A positional text has at
least one digit on either side of the point, as in `100.0` and `0.25`; an exponent follows one
leading digit, as in `1.5e300` and `1e-7`.
-/

namespace PreparedFilter

namespace Binary64

/-- Where the decimal point may stand, counted from the first digit, for a number to be written
positionally: `0.25` has its point at 0 and `100.0` at 3. -/
structure Layout where
  lowest : Int
  highest : Int

namespace Layout

/-- The digits with the point after the first `point` of them, filled with zeros as needed. -/
def positional (digits : List Char) (point : Int) : List Char :=
  let before := point.toNat
  let whole := digits.take before ++ List.replicate (before - digits.length) '0'
  let fraction := List.replicate (-point).toNat '0' ++ digits.drop before
  (if whole.isEmpty then ['0'] else whole) ++ '.' :: (if fraction.isEmpty then ['0'] else fraction)

/-- One digit, the rest of them after a point, and the power of ten. -/
def scientific (digits : List Char) (point : Int) : List Char :=
  let tail := digits.drop 1
  digits.take 1 ++ (if tail.isEmpty then [] else '.' :: tail)
    ++ 'e' :: (toString (point - 1)).toList

/-- The text of the magnitude of a finite number. -/
def magnitude (l : Layout) (x : Binary64) : List Char :=
  if x.mantissa = 0 then ['0', '.', '0']
  else
    let d := x.shortest
    let point := (d.digits.length : Int) + d.exponent
    if l.lowest ≤ point ∧ point ≤ l.highest then positional d.digits point
    else scientific d.digits point

/-- The text of a finite number. A negative zero keeps its sign. -/
def text (l : Layout) (x : Binary64) : String :=
  String.ofList ((if x.isNegative then ['-'] else []) ++ l.magnitude x)

end Layout

end Binary64

end PreparedFilter
