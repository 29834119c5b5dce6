import ResourceTables.Number.Width

/-!
# ResourceTables.Number.Double

Finite double-precision numbers, held by their bits: read from decimal digits, multiplied and divided
with correct rounding, scaled by a power of ten, and written with the fewest digits that read back.

Design points:

* A number is its sign, a mantissa `m` and a power of two `q`, so that its magnitude is `m · 2^q`.
  All arithmetic here is on natural numbers, and nothing is approximated.
* The interval of numbers that round to `m · 2^q` reaches half a unit up and half a unit down, or a
  quarter of a unit down where the power of two changes. Its ends belong to it iff `m` is even.
* Scaling rounds at every step, the power of ten included, so it need not give the number nearest to
  the decimal (`scaled`); `ofDecimal` does.
* For one digit, two digits, … the two neighbours of the number on that decimal grid are tried; the
  first grid with a hit wins, of two hits the nearer one, and of two equally near the even one.
-/

namespace ResourceTables.Number

/-- A finite double-precision number, by its sixty-four bits. -/
structure Double where
  bits : UInt64
  deriving DecidableEq

namespace Double

/-- The sign bit. -/
def isNegative (d : Double) : Bool := d.bits >>> 63 == 1

/-- The mantissa and the power of two of the magnitude. -/
def parts (d : Double) : Nat × Int :=
  let e := ((d.bits >>> 52) &&& 0x7FF).toNat
  let f := (d.bits &&& 0xFFFFFFFFFFFFF).toNat
  if e = 0 then (f, -1074) else (f + twoTo 52, (e : Int) - 1075)

/-! ### Reading -/

/-- The quotient rounded to the nearest number, a half to the even one. -/
def roundDiv (num den : Nat) : Nat :=
  let q := num / den
  let r := 2 * (num % den)
  if r > den || (r == den && q % 2 == 1) then q + 1 else q

/-- A number from its sign and the encoding of its magnitude; nothing if that is not finite. -/
def ofEncoding (negative : Bool) (encoding : Nat) : Option Double :=
  if encoding < 0x7FF * twoTo 52 then
    some ⟨(if negative then 0x8000000000000000 else 0) ||| encoding.toUInt64⟩
  else none

/-- The number nearest to a quotient; nothing if it is too large. -/
def ofRatio (negative : Bool) (num den : Nat) : Option Double :=
  if num = 0 then ofEncoding negative 0
  else
    let k : Int := (num.log2 : Int) - den.log2
    let k := if num * twoTo (-k).toNat < den * twoTo k.toNat then k - 1 else k
    let q := max (k - 52) (-1074)
    let m := roundDiv (num * twoTo (-q).toNat) (den * twoTo q.toNat)
    ofEncoding negative ((q + 1074).toNat * twoTo 52 + m)

/-- The number nearest to `digits · 10^exponent`; nothing if it is too large. Beyond the four
hundredth power of ten on either side the answer is known without the powers. -/
def ofDecimal (negative : Bool) (digits : Nat) (exponent : Int) : Option Double :=
  let top := exponent + (Nat.toDigits 10 digits).length
  if digits = 0 || top < -400 then ofEncoding negative 0
  else if top > 400 then none
  else ofRatio negative (digits * tenTo exponent.toNat) (tenTo (-exponent).toNat)

/-! ### Scaling -/

/-- The number nearest to a product; nothing if it is too large. -/
def times (d e : Double) : Option Double :=
  let (m, q) := d.parts
  let (n, p) := e.parts
  ofRatio (d.isNegative != e.isNegative) (m * n * twoTo (q + p).toNat) (twoTo (-(q + p)).toNat)

/-- The number nearest to a quotient; nothing if it is too large. -/
def dividedBy (d e : Double) : Option Double :=
  let (m, q) := d.parts
  let (n, p) := e.parts
  ofRatio (d.isNegative != e.isNegative) (m * twoTo (q - p).toNat) (n * twoTo (p - q).toNat)

/-- The number nearest to a power of ten; nothing if it is too large, which is so from the power 309. -/
def powerTen (n : Nat) : Option Double := ofRatio false (tenTo n) 1

/-- A number times a power of ten, which is rounded itself before the number is multiplied or divided by
it; nothing if the result is too large. -/
def scaled (d : Double) (exponent : Int) : Option Double := do
  let power := exponent.natAbs
  if power ≤ 308 then
    let ten ← powerTen power
    if 0 ≤ exponent then d.times ten else d.dividedBy ten
  else if d.parts.1 = 0 then return d
  else if 0 ≤ exponent then none
  -- The powers of ten end at 10^308, so a number is divided until nothing is left of it.
  else scaled (← d.dividedBy (← powerTen 308)) (exponent + 308)
termination_by (-exponent).toNat

/-! ### Writing -/

/-- The largest power of ten not above `num / den`, from a start that is at most four below it. -/
def powerOfTen (num den : Nat) : (fuel : Nat) → Int → Int
  | 0, p => p
  | fuel + 1, p =>
    if den * tenTo (p + 1).toNat ≤ num * tenTo (-(p + 1)).toNat then powerOfTen num den fuel (p + 1)
    else p

/-- The fewest decimal digits `c` and the power `k` such that `c · 10^k` reads back as the positive
magnitude `m · 2^q`. -/
def shortestOf (m : Nat) (q : Int) : Nat × Int :=
  let up := twoTo (q - 2).toNat
  let den := twoTo (2 - q).toNat
  let low := (4 * m - (if m = twoTo 52 && q > -1074 then 1 else 2)) * up
  let value := 4 * m * up
  let high := (4 * m + 2) * up
  let p := powerOfTen value den 5 (((value.log2 : Int) - den.log2) * 30103 / 100000 - 1)
  let hit (scaleNum scaleDen c : Nat) : Bool :=
    let x := c * scaleNum * den
    if m % 2 = 0 then low * scaleDen ≤ x && x ≤ high * scaleDen
    else low * scaleDen < x && x < high * scaleDen
  let onGrid? (n : Nat) : Option (Nat × Int) :=
    let k := p - n
    let scaleNum := tenTo k.toNat
    let scaleDen := tenTo (-k).toNat
    let c := value * scaleDen / (den * scaleNum)
    let r := 2 * (value * scaleDen % (den * scaleNum))
    let upper := r > den * scaleNum || (r == den * scaleNum && c % 2 == 1)
    match hit scaleNum scaleDen c, hit scaleNum scaleDen (c + 1) with
    | true, true => some (if upper then c + 1 else c, k)
    | true, false => some (c, k)
    | false, true => some (c + 1, k)
    | false, false => none
  ((List.range 17).findSome? onGrid?).getD (0, 0)

/-- Digits as text without trailing zeros. -/
def significant (c : Nat) : List Char :=
  ((Nat.toDigits 10 c).reverse.dropWhile (· == '0')).reverse

/-- The layout of a number: positional with at least one fraction digit where the decimal exponent
is from -5 to 15, and with a signed exponent elsewhere. -/
def layout (ds : List Char) (exponent : Int) : List Char :=
  if 0 ≤ exponent && exponent < 16 then
    let n := exponent.toNat + 1
    let fraction := ds.drop n
    ds.take n ++ List.replicate (n - ds.length) '0' ++
      '.' :: (if fraction.isEmpty then ['0'] else fraction)
  else if -5 ≤ exponent && exponent < 0 then
    '0' :: '.' :: List.replicate (-exponent - 1).toNat '0' ++ ds
  else
    let fraction := ds.drop 1
    ds.take 1 ++ (if fraction.isEmpty then [] else '.' :: fraction) ++
      'e' :: (if exponent < 0 then '-' else '+') :: Nat.toDigits 10 exponent.natAbs

/-- The text of a number. -/
def toString (d : Double) : String :=
  let (m, q) := d.parts
  let magnitude :=
    if m = 0 then ['0', '.', '0']
    else
      let (c, k) := shortestOf m q
      layout (significant c) (k + (Nat.toDigits 10 c).length - 1)
  String.ofList (if d.isNegative then '-' :: magnitude else magnitude)

instance : ToString Double := ⟨toString⟩

end Double

end ResourceTables.Number
