/-!
# Decimal numbers beyond the largest double

A decimal number is read as infinity if it is not below the midpoint between the largest finite
double and the next power of two. Only the order of magnitude matters for most numbers, so the exact
comparison is made for those near the bound alone.
-/

namespace ScriptPlugins.Text.Decimal

/-- The least number that is read as infinity. -/
def infinityBound : Nat := (1 <<< 1024) - (1 <<< 970)

/-- The number that a list of digits writes. -/
def natOf (digits : List Char) : Nat :=
  digits.foldl (fun value c => value * 10 + (c.toNat - '0'.toNat)) 0

/-- Whether the digits, taken as a whole number times a power of ten, are read as infinity. -/
def overflows (digits : List Char) (exponent : Int) : Bool :=
  let digits := digits.dropWhile (· == '0')
  let magnitude : Int := digits.length + exponent
  if digits.isEmpty || magnitude < 300 then false
  else if magnitude > 400 then true
  else if 0 ≤ exponent then decide (infinityBound ≤ natOf digits * Nat.pow 10 exponent.toNat)
  else decide (infinityBound * Nat.pow 10 (-exponent).toNat ≤ natOf digits)

end ScriptPlugins.Text.Decimal
