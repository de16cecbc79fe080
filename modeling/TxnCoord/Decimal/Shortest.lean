/-!
# Shortest decimal of a double

A finite double stands for the exact binary fraction `m · 2^e`. Every real that rounds to
it lies in an interval around it: half a unit on each side, a quarter on the lower side at
a power of two, with the ends in the interval exactly when `m` is even. The shortest
decimal of the double is the decimal with the fewest significant digits in that interval.
Of two such decimals the nearer one is taken, and an exact tie goes to the even last digit.

The search goes through the grids of `1, 2, …, 17` significant digits. On each grid it
looks only at the two neighbours of the value, since if any point of a grid lies in the
interval, so does one of them. Seventeen digits always hit.

Also here: `ofNat`, the double nearest to a whole number, ties to even. It is built from
the bits, so it does not depend on how a runtime converts integers.
-/

namespace TxnCoord.Decimal

/-- The parts of a finite double: its sign, and `mant · 2^exp` for its magnitude. -/
structure Binary where
  neg : Bool
  mant : Nat
  exp : Int
  /-- Whether the lower gap to the next double is half the upper one. -/
  narrowBelow : Bool

/-- Splits the bits of a double. Infinities and NaN come out as huge values. -/
def Binary.ofFloat (f : Float) : Binary :=
  let bits : Nat := f.toBits.toNat
  let frac : Nat := bits % Nat.pow 2 52
  let biased : Nat := (bits / Nat.pow 2 52) % 2048
  if biased = 0 then
    { neg := bits / Nat.pow 2 63 = 1, mant := frac, exp := -1074, narrowBelow := false }
  else
    { neg := bits / Nat.pow 2 63 = 1, mant := frac + Nat.pow 2 52, exp := (biased : Int) - 1075,
      narrowBelow := frac = 0 && biased > 1 }

/-- Compares `x · 10^p` with `y · 2^e` exactly. -/
def compareScaled (x : Nat) (p : Int) (y : Nat) (e : Int) : Ordering :=
  compare (x * Nat.pow 10 p.toNat * Nat.pow 2 (-e).toNat) (y * Nat.pow 2 e.toNat * Nat.pow 10 (-p).toNat)

/-- `⌊y · 2^e / 10^p⌋`, exactly. -/
def floorScaled (y : Nat) (e : Int) (p : Int) : Nat :=
  (y * Nat.pow 2 e.toNat * Nat.pow 10 (-p).toNat) / (Nat.pow 2 (-e).toNat * Nat.pow 10 p.toNat)

/-- The number of decimal digits of a whole number, one for zero. -/
def digitCount (n : Nat) : Nat := (Nat.repr n).length

/-- The decimal exponent of the leading digit of `y · 2^e`, for `y > 0`. -/
def leadExponent (y : Nat) (e : Int) : Int :=
  ((digitCount (floorScaled y e (-400)) : Int) - 1) - 400

/-- A decimal `digits · 10^exp10`: whole digits scaled by a power of ten. -/
structure Scaled where
  digits : Nat
  exp10 : Int

/-- Strips trailing zero digits, raising the exponent to keep the value. -/
def Scaled.normalize (d : Scaled) : Scaled :=
  go 20 d
where
  go : Nat → Scaled → Scaled
    | 0, d => d
    | n + 1, d =>
      if d.digits ≠ 0 ∧ d.digits % 10 = 0 then go n ⟨d.digits / 10, d.exp10 + 1⟩ else d

/-- Whether `d · 10^p` rounds to the double with parts `b`. -/
def Binary.admits (b : Binary) (d : Nat) (p : Int) : Bool :=
  let lower := 4 * b.mant - (if b.narrowBelow then 1 else 2)
  let upper := 4 * b.mant + 2
  let lo := compareScaled d p lower (b.exp - 2)
  let hi := compareScaled d p upper (b.exp - 2)
  if b.mant % 2 = 0 then lo != .lt && hi != .gt
  else lo == .gt && hi == .lt

/-- The nearer of the two grid neighbours `lo · 10^p` and `(lo+1) · 10^p`, ties to even. -/
def Binary.nearer (b : Binary) (lo : Nat) (p : Int) : Nat :=
  match compareScaled (2 * lo + 1) p (2 * b.mant) b.exp with
  | .gt => lo
  | .lt => lo + 1
  | .eq => if lo % 2 = 0 then lo else lo + 1

/-- The shortest decimal of a nonzero finite double's magnitude. -/
def Binary.shortest (b : Binary) : Scaled :=
  let lead := leadExponent b.mant b.exp
  go lead 1 17
where
  go (lead : Int) (n : Nat) : Nat → Scaled
    | 0 => ⟨b.mant, b.exp⟩
    | fuel + 1 =>
      let p := lead - n + 1
      let lo := floorScaled b.mant b.exp p
      let okLo := lo ≠ 0 && b.admits lo p
      let okHi := b.admits (lo + 1) p
      if okLo && okHi then (Scaled.normalize ⟨b.nearer lo p, p⟩)
      else if okLo then Scaled.normalize ⟨lo, p⟩
      else if okHi || fuel = 0 then Scaled.normalize ⟨lo + 1, p⟩
      else go lead (n + 1) fuel

/-- The double nearest to a whole number, an exact tie going to the even mantissa. -/
def ofNat (n : Nat) : Float :=
  if n = 0 then 0.0 else
  let top := n.log2
  if top ≤ 52 then
    Float.ofBits (UInt64.ofNat (((top + 1023) * Nat.pow 2 52) + (n * Nat.pow 2 (52 - top) - Nat.pow 2 52)))
  else
    let s := top - 52
    let q := n / Nat.pow 2 s
    let r := n % Nat.pow 2 s
    let half := Nat.pow 2 (s - 1)
    let q' := if r > half ∨ (r = half ∧ q % 2 = 1) then q + 1 else q
    let (q'', s') := if q' = Nat.pow 2 53 then (Nat.pow 2 52, s + 1) else (q', s)
    if s' + 52 + 1023 ≥ 2047 then Float.ofBits 0x7FF0000000000000
    else Float.ofBits (UInt64.ofNat (((s' + 52 + 1023) * Nat.pow 2 52) + (q'' - Nat.pow 2 52)))

end TxnCoord.Decimal
