import SheetFormula.Number.Shortest

/-!
# Written numbers

How a double is written: which magnitudes are written with all their places and which with an
exponent, and the spelling of the special values. A `Layout` holds these decisions; each place
that writes numbers has its own.

## Main definitions

* `SheetFormula.Number.Layout` — the decisions of a number format.
* `SheetFormula.Number.Layout.write` — the text of a double in a layout.
* `SheetFormula.Number.Layout.display` — the layout of results shown to a user.
* `SheetFormula.Number.Layout.plain` — all places, never an exponent.
-/

set_option relaxedAutoImplicit false
set_option autoImplicit false

namespace SheetFormula.Number

/-- The decisions of a number format. -/
structure Layout where
  /-- The least power of ten of a first digit that is written with all places. -/
  lowest : Int
  /-- The greatest power of ten of a first digit that is written with all places. -/
  highest : Int
  /-- What follows a whole number written with all places. -/
  afterWhole : String
  /-- What stands before the digits of an exponent that is not negative. -/
  exponentSign : String
  /-- Whether a negative zero shows its sign. -/
  signedZero : Bool
  /-- The choice between two shortest decimals. -/
  tie : Tie
  /-- The text of NaN. -/
  notANumber : String
  /-- The text of infinity. -/
  infinite : String

/-- `n` zeros. -/
def zeros (n : Nat) : String :=
  String.ofList (List.replicate n '0')

/-- A positive decimal with all its places. -/
def Decimal.positional (value : Decimal) (afterWhole : String) : String :=
  let text := toString value.digits
  let whole : Int := text.length + value.exponent
  if whole ≤ 0 then "0." ++ zeros (-whole).toNat ++ text
  else if 0 ≤ value.exponent then text ++ zeros value.exponent.toNat ++ afterWhole
  else
    String.ofList (text.toList.take whole.toNat) ++ "." ++
      String.ofList (text.toList.drop whole.toNat)

/-- The power of ten of the first digit. -/
def Decimal.order (value : Decimal) : Int :=
  (toString value.digits).length + value.exponent - 1

/-- A positive decimal with one digit before the point and an exponent. -/
def Decimal.scientific (value : Decimal) (exponentSign : String) : String :=
  let mantissa :=
    match (toString value.digits).toList with
    | [] => ""
    | [first] => String.ofList [first]
    | first :: rest => String.ofList (first :: '.' :: rest)
  let order := value.order
  mantissa ++ "e" ++ (if order < 0 then "-" else exponentSign) ++ toString order.natAbs

/-- The text of a positive decimal. -/
def Layout.writeDecimal (layout : Layout) (value : Decimal) : String :=
  let order := value.order
  if layout.lowest ≤ order ∧ order ≤ layout.highest then value.positional layout.afterWhole
  else value.scientific layout.exponentSign

/-- The text of a double. -/
def Layout.write (layout : Layout) (x : Float) : String :=
  match decode x with
  | none =>
    if x.isNaN then layout.notANumber
    else if x < 0.0 then "-" ++ layout.infinite
    else layout.infinite
  | some value =>
    if value.mantissa = 0 then
      (if layout.signedZero && value.negative then "-0" else "0") ++ layout.afterWhole
    else
      (if value.negative then "-" else "") ++
        layout.writeDecimal (shortest layout.tie value.mantissa value.exponent)

/-- Results shown to a user: whole numbers without a point, an exponent outside `1e-6 … 1e21`,
no sign on zero. -/
def Layout.display : Layout :=
  { lowest := -6, highest := 20, afterWhole := "", exponentSign := "+", signedZero := false,
    tie := .up, notANumber := "NaN", infinite := "Infinity" }

/-- All places, never an exponent. -/
def Layout.plain : Layout :=
  { lowest := -400, highest := 400, afterWhole := "", exponentSign := "", signedZero := true,
    tie := .up, notANumber := "NaN", infinite := "inf" }

end SheetFormula.Number
