import GlslFlatten.Standin.Program.Shell.Arithmetic
import GlslFlatten.Standin.Program.Shell.Fraction

/-!
Text that is printed: backslash escapes, and formats with their directives.
-/

namespace GlslFlatten.Shell

open Text

/-- The character that a letter stands for behind a backslash. -/
def escaped? : Char → Option Char
  | 'n' => some '\n'
  | 't' => some '\t'
  | 'r' => some '\r'
  | 'a' => some '\x07'
  | 'b' => some '\x08'
  | 'f' => some '\x0c'
  | 'v' => some '\x0b'
  | 'e' => some '\x1b'
  | '\\' => some '\\'
  | _ => none

def isOctal (c : Char) : Bool := '0' ≤ c && c ≤ '7'

/-- The byte that octal digits stand for. -/
def octalByte (digits : Octets) : Char :=
  .ofNat (digits.foldl (fun n c => 8 * n + (c.toNat - 48)) 0 % 256)

/-- Octal digits at the start of a text. -/
def octalDigits (most : Nat) (cs : Octets) : Octets := (cs.take most).takeWhile isOctal

/-- Replaces escapes. The second result tells whether an escape ended the output. -/
def unescape : (fuel : Nat) → Octets → Octets × Bool
  | 0, _ => ([], false)
  | _, [] => ([], false)
  | fuel + 1, '\\' :: c :: rest =>
    let put (d : Octets) (rest : Octets) : Octets × Bool :=
      let (more, ended) := unescape fuel rest
      (d ++ more, ended)
    if c = 'c' then ([], true)
    else if c = '0' then
      let digits := octalDigits 3 rest
      put [octalByte digits] (rest.drop digits.length)
    else if isOctal c then
      let digits := octalDigits 3 (c :: rest)
      put [octalByte digits] ((c :: rest).drop digits.length)
    else match escaped? c with
      | some d => put [d] rest
      | none => put ['\\', c] rest
  | fuel + 1, c :: rest =>
    let (more, ended) := unescape fuel rest
    (c :: more, ended)

/-- What `echo` prints. -/
def echoed (args : List Octets) : Octets :=
  let (bare, args) := match args with
    | ['-', 'n'] :: rest => (true, rest)
    | args => (false, args)
  let text := [' '].intercalate args
  let (shown, ended) := unescape (text.length + 1) text
  if bare || ended then shown else shown ++ ['\n']

/-- A directive: its flags, width, precision and letter. -/
structure Directive where
  flags : Octets := []
  width : Nat := 0
  precision : Option Nat := none
  letter : Char
  deriving DecidableEq, Repr

def Directive.has (d : Directive) (flag : Char) : Bool := d.flags.contains flag

/-- Fills a text up to the width. -/
def Directive.pad (d : Directive) (text : Octets) : Octets :=
  let gap := List.replicate (d.width - text.length) ' '
  if d.has '-' then text ++ gap else gap ++ text

/-- Fills a number up to the width, with zeros behind its sign if these are wanted. -/
def Directive.padNumber (d : Directive) (sign digits : Octets) : Octets :=
  let digits := match d.precision with
    | some n => List.replicate (n - digits.length) '0' ++ digits
    | none => digits
  if d.has '0' && !d.has '-' && d.precision.isNone then
    sign ++ List.replicate (d.width - (sign.length + digits.length)) '0' ++ digits
  else d.pad (sign ++ digits)

def Directive.number (d : Directive) (n : Int) : Octets :=
  let unsigned := (n % UInt64.size).toNat
  let digits (base : Nat) : Octets := Nat.toDigits base unsigned
  match d.letter with
  | 'x' => d.padNumber (if d.has '#' && unsigned ≠ 0 then ['0', 'x'] else []) (digits 16)
  | 'X' =>
    d.padNumber (if d.has '#' && unsigned ≠ 0 then ['0', 'X'] else [])
      ((digits 16).map Char.toUpper)
  | 'o' => d.padNumber [] ((if d.has '#' && unsigned ≠ 0 then ['0'] else []) ++ digits 8)
  | 'u' => d.padNumber [] (digits 10)
  | _ =>
    let sign := if n < 0 then ['-'] else if d.has '+' then ['+'] else if d.has ' ' then [' '] else []
    d.padNumber sign (Nat.toDigits 10 n.natAbs)

/-- What can be wrong with a number. The end of the digits is looked at before the size. -/
def numberRemark (arg rest : Octets) (outside : Bool) : Option Octets :=
  let remark (text : String) : Option Octets := some (arg ++ (": " ++ text).toList)
  if rest = arg && arg ≠ [] then remark "expected numeric value"
  else if rest ≠ [] then remark "not completely converted"
  else if outside then remark "Numerical result out of range"
  else none

/-- A sign and what follows it. -/
def cutSign (text : Octets) : Bool × Octets :=
  match text with
  | '-' :: cs => (true, cs)
  | '+' :: cs => (false, cs)
  | cs => (false, cs)

/-- The number that an argument stands for, and what is wrong with it. A quote gives the number of the
character behind it. -/
def numberOf (unsigned : Bool) (arg : Octets) : Int × Option Octets :=
  match arg with
  | '"' :: rest => ((rest.headD '\x00').toNat, none)
  | '\'' :: rest => ((rest.headD '\x00').toNat, none)
  | _ =>
    let (negative, digits) := cutSign (dropSpace arg)
    let hex := digits.head? = some '0' && ((digits.drop 1).head?.any fun c => c = 'x' || c = 'X')
    let octal := digits.head? = some '0' && !hex
    let isDigit (c : Char) : Bool :=
      if octal then isOctal c
      else isAsciiDigit c || hex && 'a' ≤ c.toLower && c.toLower ≤ 'f'
    let run := if hex then digits.take 2 ++ (digits.drop 2).takeWhile isDigit else digits.takeWhile isDigit
    match readInteger? run with
    | none => (0, numberRemark arg arg false)
    | some n =>
      let value : Int := if negative then -(n : Int) else n
      let half : Int := UInt64.size / 2
      let outside := if unsigned then n ≥ UInt64.size else value < -half || value ≥ half
      let value := if !outside then value
        else if unsigned then UInt64.size - 1
        else if negative then -half
        else half - 1
      (value, numberRemark arg (digits.drop run.length) outside)

/-- The number at the start of an argument, what follows it, and whether it is too large for a binary
fraction of double width. -/
def readReal (arg : Octets) : Float × Octets × Bool :=
  match arg with
  | '"' :: rest => (.ofNat (rest.headD '\x00').toNat, [], false)
  | '\'' :: rest => (.ofNat (rest.headD '\x00').toNat, [], false)
  | _ =>
    let (negative, text) := cutSign (dropSpace arg)
    let whole := text.takeWhile isAsciiDigit
    let (places, behind) := match text.drop whole.length with
      | '.' :: cs => (cs.takeWhile isAsciiDigit, cs.dropWhile isAsciiDigit)
      | cs => ([], cs)
    let (exponent, rest) : Int × Octets := match behind with
      | e :: cs =>
        let (small, digits) := cutSign cs
        let run := digits.takeWhile isAsciiDigit
        if (e = 'e' || e = 'E') && run ≠ [] then
          (if small then -(digitsValue run : Int) else digitsValue run, digits.drop run.length)
        else (0, behind)
      | [] => (0, [])
    if whole.isEmpty && places.isEmpty then (0, arg, false)
    else
      let digits := digitsValue (whole ++ places)
      let power := max (-1000) (min 1000 (exponent - places.length))
      let x := Float.ofScientific digits (power < 0) power.natAbs
      (if negative then -x else x, rest, x.isInf || x == 0 && digits ≠ 0)

/-- A number as a directive for fractions shows it. -/
def Directive.real (d : Directive) (x : Float) : Octets :=
  let sign := if x.toBits.toNat ≥ UInt64.size / 2 then ['-'] else if d.has '+' then ['+']
    else if d.has ' ' then [' '] else []
  let places := d.precision.getD 6
  let (a, b) := quotientOf x
  let fixed (places : Nat) : Octets :=
    withPoint (d.has '#') places (roundQuotient (a * tens places) b)
  let scientific (places : Nat) : Octets × Octets :=
    let (n, power) := leading places a b
    (withPoint (d.has '#') places n, showPower power)
  let body := if x.isInf then "inf".toList
    else match d.letter.toLower with
      | 'f' => fixed places
      | 'e' => (scientific places).1 ++ (scientific places).2
      | _ =>
        let digits := max places 1
        let power := (leading (digits - 1) a b).2
        let trim := if d.has '#' then id else trimPlaces
        if -4 ≤ power && power < digits then trim (fixed ((digits : Int) - 1 - power).toNat)
        else trim (scientific (digits - 1)).1 ++ (scientific (digits - 1)).2
  let body := if d.letter.isUpper then body.map Char.toUpper else body
  let flags := if x.isInf then d.flags.filter (· ≠ '0') else d.flags
  { d with precision := none, flags }.padNumber sign body

/-- What has been printed, the arguments that are left, and remarks. -/
structure Printing where
  printed : Octets := []
  args : List Octets
  remarks : List Octets := []
  /-- Nothing more is printed. -/
  ended : Bool := false
  /-- The format itself is wrong. -/
  failed : Bool := false
  deriving DecidableEq, Repr

namespace Printing

def put (p : Printing) (text : Octets) : Printing := { p with printed := p.printed ++ text }

def fail (p : Printing) (text : Octets) : Printing :=
  { p with remarks := p.remarks ++ [text], ended := true, failed := true }

def take (p : Printing) : Octets × Printing :=
  match p.args with
  | [] => ([], p)
  | a :: rest => (a, { p with args := rest })

def number (p : Printing) (unsigned : Bool) : Int × Printing :=
  let (arg, p) := p.take
  let (n, remark) := numberOf unsigned arg
  (n, { p with remarks := p.remarks ++ remark.toList })

/-- Reads a number or a star, which takes an argument. -/
def count (p : Printing) (format : Octets) : Int × Octets × Printing :=
  if format.head? = some '*' then
    let (n, p) := p.number false
    (n.bmod UInt32.size, format.drop 1, p)
  else
    let digits := format.takeWhile isAsciiDigit
    (digitsValue digits, format.drop digits.length, p)

/-- Prints an argument as a directive says. -/
def direct (p : Printing) (d : Directive) (written : Octets) : Printing :=
  match d.letter with
  | 's' =>
    let (arg, p) := p.take
    p.put (d.pad (match d.precision with
      | some n => arg.take n
      | none => arg))
  | 'b' =>
    let (arg, p) := p.take
    let (shown, ended) := unescape (arg.length + 1) arg
    { p.put (d.pad shown) with ended := ended }
  | 'c' =>
    let (arg, p) := p.take
    p.put (d.pad [arg.head?.getD '\x00'])
  | c =>
    if ['d', 'i', 'u', 'x', 'X', 'o'].contains c then
      let (n, p) := p.number (c ≠ 'd' && c ≠ 'i')
      p.put (d.number n)
    else if ['e', 'E', 'f', 'F', 'g', 'G'].contains c then
      let (arg, p) := p.take
      let (x, rest, outside) := readReal arg
      { p.put (d.real x) with remarks := p.remarks ++ (numberRemark arg rest outside).toList }
    else p.fail ('%' :: written ++ ": invalid directive".toList)

/-- Prints a format once. -/
def once : (fuel : Nat) → Octets → Printing → Printing
  | 0, _, p => p
  | _, [], p => p
  | fuel + 1, '%' :: '%' :: rest, p => once fuel rest (p.put ['%'])
  | fuel + 1, '%' :: rest, p =>
    let isFlag (c : Char) : Bool := ['#', '-', '+', ' ', '0'].contains c
    let flags := rest.takeWhile isFlag
    let (width, behind, p) := p.count (rest.drop flags.length)
    let (precision, behind, p) := match behind with
      | '.' :: more =>
        let (n, more, p) := p.count more
        (if n < 0 then none else some n.toNat, more, p)
      | _ => (none, behind, p)
    match behind with
    | [] => p.fail "missing format character".toList
    | letter :: more =>
      let flags := if width < 0 then '-' :: flags else flags
      let d : Directive := { flags, width := width.natAbs, precision, letter }
      let p := p.direct d (rest.take (rest.length - more.length))
      if p.ended then p else once fuel more p
  | fuel + 1, '\\' :: c :: rest, p =>
    if isOctal c then
      let digits := octalDigits 3 (c :: rest)
      once fuel ((c :: rest).drop digits.length) (p.put [octalByte digits])
    else match escaped? c with
      | some d => once fuel rest (p.put [d])
      | none => once fuel rest (p.put ['\\', c])
  | fuel + 1, c :: rest, p => once fuel rest (p.put [c])

/-- Prints a format, and again as long as it takes arguments and some are left. -/
def repeatedly (format : Octets) : (fuel : Nat) → Printing → Printing
  | 0, p => p
  | fuel + 1, p =>
    let next := once (format.length + 1) format p
    if next.ended || next.args = [] || next.args.length = p.args.length then next
    else repeatedly format fuel next

end Printing

def printf (format : Octets) (args : List Octets) : Printing :=
  Printing.repeatedly format (args.length + 1) { args }

end GlslFlatten.Shell
