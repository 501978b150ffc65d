/-!
# Binary floating point

A format has a sign, a biased exponent and a fraction, from the highest bit to the lowest. Numbers
go from one format to another through their exact value; where the value does not fit it is rounded
to the nearest that does, and halfway to the one with an even last digit.
-/

namespace QueryCompiler.Cell

/-- The widths of the two fields of a format. -/
structure BinaryFormat where
  fractionBits : Nat
  exponentBits : Nat
deriving DecidableEq, Inhabited

/-- What a bit pattern stands for; a finite number is `± m * 2 ^ q`. -/
inductive Datum where
  | nan
  | infinite (negative : Bool)
  | finite (negative : Bool) (m : Nat) (q : Int)
deriving DecidableEq, Inhabited

def pow2 (k : Nat) : Nat := Nat.pow 2 k

/-- `m` divided by `2 ^ k`, rounded to the nearest, halves to the even neighbour. -/
def roundShift (m k : Nat) : Nat :=
  let quotient := m / pow2 k
  let rest := 2 * (m % pow2 k)
  if rest > pow2 k ∨ (rest = pow2 k ∧ quotient % 2 = 1) then quotient + 1 else quotient

namespace BinaryFormat

def single : BinaryFormat := ⟨23, 8⟩

def double : BinaryFormat := ⟨52, 11⟩

/-- The exponent of the last digit of the smallest numbers. -/
def minExponent (f : BinaryFormat) : Int := 2 - pow2 (f.exponentBits - 1) - f.fractionBits

/-- The bits of infinity. Patterns above stand for no number. -/
def infinityBits (f : BinaryFormat) : Nat := (pow2 f.exponentBits - 1) * pow2 f.fractionBits

/-- What a bit pattern stands for. -/
def decode (f : BinaryFormat) (bits : Nat) : Datum :=
  let negative := bits / pow2 (f.fractionBits + f.exponentBits) % 2 = 1
  let exponent := bits / pow2 f.fractionBits % pow2 f.exponentBits
  let fraction := bits % pow2 f.fractionBits
  if exponent = pow2 f.exponentBits - 1 then
    if fraction = 0 then .infinite negative else .nan
  -- Subnormal numbers and zero have no leading digit.
  else if exponent = 0 then .finite negative fraction f.minExponent
  else .finite negative (pow2 f.fractionBits + fraction) (f.minExponent + (exponent - 1 : Nat))

/-- The bits of `m * 2 ^ q`, rounded. The exponent of the last digit is chosen first. With it in
units of the least one, exponent and digits add up to the bits: the leading digit, which is not
stored, counts one exponent further, and so does a carry out of the digits. -/
def roundBits (f : BinaryFormat) (m : Nat) (q : Int) : Nat :=
  if m = 0 then 0
  else
    let last := max (q + m.log2 - f.fractionBits) f.minExponent
    let digits := if last ≤ q then m * pow2 (q - last).toNat else roundShift m (last - q).toNat
    -- What is too large becomes infinite.
    min ((last - f.minExponent).toNat * pow2 f.fractionBits + digits) f.infinityBits

/-- The bit pattern for what is meant, rounded where it does not fit. -/
def encode (f : BinaryFormat) (d : Datum) : Nat :=
  let signed := fun (negative : Bool) (bits : Nat) =>
    if negative then pow2 (f.fractionBits + f.exponentBits) + bits else bits
  match d with
  -- The quiet one without a sign.
  | .nan => f.infinityBits + pow2 (f.fractionBits - 1)
  | .infinite negative => signed negative f.infinityBits
  | .finite negative m q => signed negative (f.roundBits m q)

end BinaryFormat

/-- A number of 64 bits. -/
structure Double where
  bits : UInt64
deriving DecidableEq, Inhabited

/-- A number of 32 bits. -/
structure Single where
  bits : UInt32
deriving DecidableEq, Inhabited

namespace Double

def datum (x : Double) : Datum := BinaryFormat.double.decode x.bits.toNat

def ofDatum (d : Datum) : Double := ⟨.ofNat (BinaryFormat.double.encode d)⟩

/-- The nearest number to an integer. -/
def ofInt (v : Int) : Double := ofDatum (.finite (v < 0) v.natAbs 0)

end Double

namespace Single

def datum (x : Single) : Datum := BinaryFormat.single.decode x.bits.toNat

def ofDatum (d : Datum) : Single := ⟨.ofNat (BinaryFormat.single.encode d)⟩

def widen (x : Single) : Double := .ofDatum x.datum

end Single

def Double.narrow (x : Double) : Single := .ofDatum x.datum

end QueryCompiler.Cell
