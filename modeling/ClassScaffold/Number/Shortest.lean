import ClassScaffold.Number.Binary64

namespace ClassScaffold.Binary64

/-- Three whole numbers, in units of `10 ^ -places`: the value, and the ends of the interval whose
numbers are rounded to it. The interval is narrower below a power of two. -/
structure Interval where
  low : Nat
  value : Nat
  high : Nat
  places : Nat
  includesEnds : Bool

def interval (x : Binary64) : Interval :=
  let unit := Nat.pow 5 (2 - x.exponent).toNat <<< (x.exponent - 2).toNat
  { low := (4 * x.significand - if x.significand = 1 <<< 52 then 1 else 2) * unit
    value := 4 * x.significand * unit
    high := (4 * x.significand + 2) * unit
    places := (2 - x.exponent).toNat
    includesEnds := x.significand % 2 = 0 }

def Interval.contains (i : Interval) (n : Nat) : Bool :=
  (i.low < n && n < i.high) || (i.includesEnds && (n = i.low || n = i.high))

/-- The number with the fewest digits in the interval, without its last `k` zeros, for the largest
such `k` up to the given one. Of two such numbers the nearer one counts, and from halfway the
greater one. -/
def Interval.shortest (i : Interval) : Nat → Nat × Nat
  | 0 => (i.value, 0)
  | k + 1 =>
    let grid := Nat.pow 10 (k + 1)
    let below := i.value / grid
    let above := below + 1
    if i.contains (below * grid) then
      if i.contains (above * grid) && above * grid - i.value ≤ i.value - below * grid then
        (above, k + 1)
      else (below, k + 1)
    else if i.contains (above * grid) then (above, k + 1)
    else i.shortest k

/-- The fewest digits that stand for the magnitude, and the exponent of ten of the last one. -/
def shortest (x : Binary64) : Nat × Int :=
  if x.significand = 0 then (0, 0)
  else
    let i := x.interval
    let (digits, k) := i.shortest (toString i.high).length
    (digits, (k : Int) - i.places)

end ClassScaffold.Binary64
