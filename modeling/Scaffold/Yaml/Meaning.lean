/-!
# The meaning of plain scalars

Where a scalar may stand for values of several kinds, its text decides whether it is nothing, a
yes or no, an integer, another number, or just a text.
-/

namespace Scaffold.Yaml

/-- What a plain scalar stands for. -/
inductive Meaning where
  /-- Nothing. -/
  | null
  /-- A yes or no. -/
  | flag (value : Bool)
  /-- An integer without a minus sign. -/
  | natural (value : Nat)
  /-- An integer with a minus sign. -/
  | negative (magnitude : Nat)
  /-- Another number. -/
  | float
  /-- A text. -/
  | text
  deriving Repr, DecidableEq

namespace Meaning

/-- Whether a text stands for nothing. -/
def isNull (text : String) : Bool := ["null", "Null", "NULL", "~"].contains text

/-- The yes or no that a text stands for. -/
def flag? (text : String) : Option Bool :=
  if ["true", "True", "TRUE"].contains text then some true
  else if ["false", "False", "FALSE"].contains text then some false
  else none

/-- The text behind a sign, if one of the signs is there. -/
def behindSign (signs : List Char) : List Char → List Char
  | char :: rest => if signs.contains char then rest else char :: rest
  | [] => []

/-- Whether a text starts with a sign. -/
def isSigned (chars : List Char) : Bool := chars.head?.any ['+', '-'].contains

/-- Whether a text is digits behind a zero, with or without a sign; such a text is no number. -/
def isPaddedDigits (chars : List Char) : Bool :=
  let digits := behindSign ['+', '-'] chars
  1 < digits.length && digits.head? == some '0' && digits.all Char.isDigit

/-- The value of a digit in a base. -/
def digitValue? (base : Nat) (char : Char) : Option Nat :=
  let value? :=
    if char.isDigit then some (char.toNat - '0'.toNat)
    else if 'a' ≤ char && char ≤ 'z' then some (char.toNat - 'a'.toNat + 10)
    else if 'A' ≤ char && char ≤ 'Z' then some (char.toNat - 'A'.toNat + 10)
    else none
  value?.filter (· < base)

/-- The value of at least one digit in a base. -/
def digitsValue? (base : Nat) (chars : List Char) : Option Nat :=
  if chars.isEmpty then none
  else (chars.mapM (digitValue? base)).map (·.foldl (fun value digit => value * base + digit) 0)

/-- The base that a letter behind a zero tells. -/
def baseOf? (letter : Char) : Option Nat := [('x', 16), ('o', 8), ('b', 2)].lookup letter

/-- The value of digits, which may tell their base. -/
def magnitude? (chars : List Char) : Option Nat :=
  match chars with
  | '0' :: letter :: digits =>
    match baseOf? letter with
    | some base => digitsValue? base digits
    | none => digitsValue? 10 chars
  | _ => digitsValue? 10 chars

/-- The integer without a minus sign that a text stands for, if it fits into 128 bits. -/
def natural? (chars : List Char) : Option Nat :=
  if isPaddedDigits chars then none
  else (magnitude? (behindSign ['+'] chars)).filter (· < UInt64.size * UInt64.size)

/-- The magnitude of the integer with a minus sign that a text stands for, if it fits into 128
bits. -/
def negative? (chars : List Char) : Option Nat :=
  match chars with
  | '-' :: rest =>
    if isPaddedDigits chars then none
    else (magnitude? rest).filter (· ≤ UInt64.size * UInt64.size / 2)
  | _ => none

/-- The value of an exponent with an optional sign. -/
def exponent? (chars : List Char) : Option Int :=
  match chars with
  | '-' :: digits => (digitsValue? 10 digits).map fun value => -(value : Int)
  | '+' :: digits => (digitsValue? 10 digits).map Int.ofNat
  | digits => (digitsValue? 10 digits).map Int.ofNat

/-- The bound from which on numbers are too large for a float of 64 bits: half a step above the
largest one. -/
def floatBound : Nat := Nat.pow 2 1024 - Nat.pow 2 970

/-- Whether digits times a power of ten lie below the bound. -/
def isBelowBound (digits : List Char) (exponent : Int) : Bool :=
  let significant := digits.dropWhile (· == '0')
  let value := (digitsValue? 10 significant).getD 0
  let places := exponent + significant.length
  if significant.isEmpty || places < 0 then true
  else if 400 < places then false
  else if exponent < 0 then decide (value < floatBound * Nat.pow 10 exponent.natAbs)
  else decide (value * Nat.pow 10 exponent.natAbs < floatBound)

/-- Whether a text is a decimal number of 64 bits: digits with at most one point and an optional
exponent. -/
def isDecimal (chars : List Char) : Bool :=
  let isMark (char : Char) := char == 'e' || char == 'E'
  let front := chars.takeWhile fun char => !isMark char
  let whole := front.takeWhile (· != '.')
  let fraction := (front.dropWhile (· != '.')).tail
  let exponent? :=
    match chars.dropWhile fun char => !isMark char with
    | [] => some 0
    | _ :: rest => exponent? rest
  match exponent? with
  | none => false
  | some exponent =>
    let digits := whole ++ fraction
    !digits.isEmpty && digits.all Char.isDigit &&
      isBelowBound digits (exponent - fraction.length)

/-- Whether a text is a number that fits into a float of 64 bits. -/
def isFloat (text : String) : Bool :=
  let chars := text.toList
  let unsigned := behindSign ['+'] chars
  if chars.head? == some '+' && isSigned unsigned then false
  else
    [".inf", ".Inf", ".INF"].contains (String.ofList unsigned) ||
      ["-.inf", "-.Inf", "-.INF", ".nan", ".NaN", ".NAN"].contains text ||
      isDecimal (behindSign ['-'] unsigned)

/-- What the text of a plain scalar stands for. -/
def ofText (text : String) : Meaning :=
  if text.isEmpty || isNull text then .null
  else
    match flag? text, natural? text.toList, negative? text.toList with
    | some value, _, _ => .flag value
    | none, some value, _ => .natural value
    | none, none, some magnitude => .negative magnitude
    | none, none, none =>
      if !isPaddedDigits text.toList && isFloat text then .float else .text

end Meaning

end Scaffold.Yaml
