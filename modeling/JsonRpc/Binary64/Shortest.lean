import JsonRpc.Binary64
import JsonRpc.Bytes

namespace JsonRpc.Binary64

/-- Three numbers `low`, `middle` and `high` in units of `1 / scale`: a magnitude between the ends
of the interval that rounds to it. -/
structure Interval where
  low : Nat
  middle : Nat
  high : Nat
  closed : Bool

/-- The interval around a magnitude, in quarters of `2 ^ q`. Below a power of two the numbers lie
twice as close. -/
def interval (x : Binary64) : Interval :=
  let m := x.significand
  let narrow := x.fractionField = 0 ∧ 1 < x.exponentField
  { low := 4 * m - if narrow then 1 else 2
    middle := 4 * m
    high := 4 * m + 2
    closed := m % 2 == 0 }

def Interval.contains (i : Interval) (n : Nat) : Bool :=
  if i.closed then i.low ≤ n && n ≤ i.high else i.low < n && n < i.high

def Interval.scale (i : Interval) (factor : Nat) : Interval :=
  { i with low := i.low * factor, middle := i.middle * factor, high := i.high * factor }

/-- The point of a grid of spacing `step` that lies in the interval, nearest to its middle; of two
that are equally near, the one with the even index. -/
def Interval.gridPoint? (i : Interval) (step : Nat) : Option Nat :=
  let below := i.middle / step
  let above := below + 1
  match i.contains (below * step), i.contains (above * step) with
  | false, false => none
  | true, false => some below
  | false, true => some above
  | true, true =>
    let down := i.middle - below * step
    let up := above * step - i.middle
    if down < up ∨ (down = up ∧ below % 2 = 0) then some below else some above

def gridDigits? (x : Binary64) (k : Int) : Option Nat :=
  let quarter := x.exponent - 2
  let units := x.interval.scale (Nat.pow 2 quarter.toNat * Nat.pow 10 (-k).toNat)
  units.gridPoint? (Nat.pow 2 (-quarter).toNat * Nat.pow 10 k.toNat)

/-- Digits `d` and exponent `k` of the shortest decimal `d * 10 ^ k` for the magnitude of `x`. -/
def shortest (x : Binary64) : Nat × Int :=
  let grids := (List.range 634).map fun i : Nat => (309 : Int) - i
  (grids.findSome? fun k => (x.gridDigits? k).map (·, k)).getD (0, 0)

/-- Digits without a mark, of which the first stands for `10 ^ x`: positional while `x` is from -5
to 15, otherwise with an exponent that always has its sign. -/
def place (digits : List Char) (x : Int) : List Char :=
  if 0 ≤ x ∧ x ≤ 15 then
    let whole := x.toNat + 1
    let padded := digits ++ List.replicate (whole - digits.length) '0'
    let fraction := padded.drop whole
    padded.take whole ++ '.' :: (if fraction = [] then ['0'] else fraction)
  else if -5 ≤ x ∧ x < 0 then
    '0' :: '.' :: List.replicate ((-x).toNat - 1) '0' ++ digits
  else
    let power := if x < 0 then '-' :: decimal (-x).toNat else '+' :: decimal x.toNat
    match digits with
    | [] => []
    | [d] => d :: 'e' :: power
    | d :: rest => d :: '.' :: rest ++ 'e' :: power

def write (x : Binary64) : List Char :=
  let sign := if x.isNegative then ['-'] else []
  if x.significand = 0 then sign ++ ['0', '.', '0']
  else
    let (d, k) := x.shortest
    let digits := decimal d
    sign ++ place digits (k + digits.length - 1)

end JsonRpc.Binary64
