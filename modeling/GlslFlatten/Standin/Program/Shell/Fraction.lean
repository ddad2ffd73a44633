import GlslFlatten.Standin.Program.Shell.Command
import GlslFlatten.Text.Lines

/-!
Decimal digits of binary fractions, rounded exactly.
-/

namespace GlslFlatten.Shell

open Text

/-- A quotient to the nearest whole number, and a half to the even one. -/
def roundQuotient (a b : Nat) : Nat :=
  let q := a / b
  let twice := 2 * (a % b)
  if twice < b || twice = b && q % 2 = 0 then q else q + 1

/-- A power of ten. -/
def tens (n : Nat) : Nat := Nat.pow 10 n

/-- A number that is no infinity, without its sign, as a quotient. -/
def quotientOf (x : Float) : Nat × Nat :=
  let bits := x.toBits.toNat
  let unit := 1 <<< 52
  let power := bits / unit % 2048
  let digits := bits % unit + if power = 0 then 0 else unit
  let power := max power 1
  if power ≥ 1075 then (digits <<< (power - 1075), 1) else (digits, 1 <<< (1075 - power))

/-- Digits with a point before the last `places` of them. -/
def withPoint (keepsPoint : Bool) (places n : Nat) : Octets :=
  let digits := Nat.toDigits 10 n
  let digits := List.replicate (places + 1 - digits.length) '0' ++ digits
  let whole := digits.take (digits.length - places)
  if places = 0 then whole ++ (if keepsPoint then ['.'] else [])
  else whole ++ '.' :: digits.drop (digits.length - places)

/-- The digits of a quotient with one before the point, and the power of ten that they are times. -/
def leading (places : Nat) (a b : Nat) : Nat × Int :=
  if a = 0 then (0, 0)
  else
    let guess : Int := (Nat.toDigits 10 a).length - (Nat.toDigits 10 b).length
    let power := if (if guess < 0 then a * tens guess.natAbs < b else a < b * tens guess.natAbs)
      then guess - 1 else guess
    let shift : Int := places - power
    let n := if shift < 0 then roundQuotient a (b * tens shift.natAbs)
      else roundQuotient (a * tens shift.natAbs) b
    if n = tens (places + 1) then (n / 10, power + 1) else (n, power)

def showPower (power : Int) : Octets :=
  let digits := Nat.toDigits 10 power.natAbs
  'e' :: (if power < 0 then '-' else '+') :: List.replicate (2 - digits.length) '0' ++ digits

/-- Removes zeros at the end of the places, and a point without places. -/
def trimPlaces (text : Octets) : Octets :=
  if text.contains '.' then dropTrailing (· = '.') (dropTrailing (· = '0') text) else text

end GlslFlatten.Shell
