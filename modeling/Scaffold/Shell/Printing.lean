import Scaffold.Text.Utf8

/-!
# Printing with escapes

The escapes that commands put into what they print, and formats with placeholders.
-/

namespace Scaffold.Shell

/-- The number that a text of digits stands for. -/
def natural? (text : String) : Option Nat :=
  if !text.isEmpty && text.toList.all Char.isDigit then
    some (text.toList.foldl (fun value digit => value * 10 + (digit.toNat - '0'.toNat)) 0)
  else none

/-- The number that a text of digits with an optional sign stands for. -/
def integer? (text : String) : Option Int :=
  match text.toList with
  | '-' :: digits => (natural? (String.ofList digits)).map fun value => -(value : Int)
  | '+' :: digits => (natural? (String.ofList digits)).map Int.ofNat
  | _ => (natural? text).map Int.ofNat

/-- The byte that a letter behind a backslash stands for. -/
def escapeByte? (letter : Char) : Option UInt8 :=
  [('a', 7), ('b', 8), ('f', 12), ('n', 10), ('r', 13), ('t', 9), ('v', 11), ('\\', 92)].lookup
    letter

/-- Whether a character is an octal digit. -/
def isOctal (char : Char) : Bool := '0' ≤ char && char ≤ '7'

/-- The value of octal digits. -/
def octalValue (digits : List Char) : Nat :=
  digits.foldl (fun value digit => value * 8 + (digit.toNat - '0'.toNat)) 0

/-- Printed bytes. -/
structure Printed where
  bytes : List UInt8
  /-- Whether printing was told to stop. -/
  stopped : Bool
  /-- The arguments that should have been numbers. -/
  faults : List String

namespace Printed

/-- Bytes and nothing else. -/
def ofBytes (bytes : List UInt8) : Printed := ⟨bytes, false, []⟩

/-- Nothing. -/
def nothing : Printed := ofBytes []

/-- Printed bytes behind others. -/
def behind (first second : Printed) : Printed :=
  ⟨first.bytes ++ second.bytes, second.stopped, first.faults ++ second.faults⟩

end Printed

/-- Replace escapes. If `zeroed`, an octal number has at most three digits behind a first zero, and
the letter c stops the printing; otherwise it has at most three digits in all. `skip` counts
characters that were taken already. -/
def unescapeFrom (zeroed : Bool) : Nat → List Char → Printed
  | _, [] => .nothing
  | skip + 1, _ :: rest => unescapeFrom zeroed skip rest
  | 0, '\\' :: rest =>
    match rest with
    | [] => .ofBytes (Text.encode ['\\'])
    | letter :: others =>
      if zeroed && letter == 'c' then { Printed.nothing with stopped := true }
      else if isOctal letter && (!zeroed || letter == '0') then
        let digits :=
          if zeroed then (others.take 3).takeWhile isOctal
          else letter :: (others.take 2).takeWhile isOctal
        let length := if zeroed then digits.length + 1 else digits.length
        (Printed.ofBytes [(octalValue digits).toUInt8]).behind
          (unescapeFrom zeroed length (letter :: others))
      else
        let bytes :=
          match escapeByte? letter with
          | some byte => [byte]
          | none => Text.encode ['\\', letter]
        (Printed.ofBytes bytes).behind (unescapeFrom zeroed 1 (letter :: others))
  | 0, char :: rest =>
    (Printed.ofBytes (Text.encode [char])).behind (unescapeFrom zeroed 0 rest)

/-- A text with its escapes replaced. -/
def unescape (zeroed : Bool) (text : String) : Printed := unescapeFrom zeroed 0 text.toList

/-- A placeholder of a format. -/
structure Placeholder where
  /-- Whether blanks go behind what is printed. -/
  left : Bool
  /-- Whether zeros go before a number. -/
  zeros : Bool
  /-- The least number of bytes. -/
  width : Nat
  /-- The largest number of bytes of a text, or the least number of digits. -/
  precision? : Option Nat
  /-- What is printed. -/
  letter : Char

namespace Placeholder

/-- The placeholder behind a percent sign, and the number of its characters. -/
def at? (chars : List Char) : Option (Placeholder × Nat) :=
  let flags := chars.takeWhile ['-', '0', ' ', '+', '#'].contains
  let rest := chars.drop flags.length
  let width := rest.takeWhile Char.isDigit
  let rest := rest.drop width.length
  let (precision?, length, rest) :=
    match rest with
    | '.' :: others =>
      let digits := others.takeWhile Char.isDigit
      (some ((natural? (String.ofList digits)).getD 0), digits.length + 1,
        others.drop digits.length)
    | _ => (none, 0, rest)
  match rest with
  | letter :: _ =>
    if ['s', 'b', 'c', 'd', 'i', 'u', 'x', 'X', 'o'].contains letter then
      some (⟨flags.contains '-', flags.contains '0', (natural? (String.ofList width)).getD 0,
        precision?, letter⟩, flags.length + width.length + length + 1)
    else none
  | [] => none

/-- Bytes of a text as the placeholder asks for them. -/
def pad (placeholder : Placeholder) (bytes : List UInt8) : List UInt8 :=
  let blanks := List.replicate (placeholder.width - bytes.length) 32
  if placeholder.left then bytes ++ blanks else blanks ++ bytes

/-- The digits of a number as the placeholder asks for them. -/
def digits (placeholder : Placeholder) (value : Int) : List UInt8 :=
  let base := if placeholder.letter == 'o' then 8
    else if placeholder.letter == 'x' || placeholder.letter == 'X' then 16 else 10
  let digits := Nat.toDigits base value.natAbs
  let digits := if placeholder.letter == 'X' then digits.map Char.toUpper else digits
  let sign := if value < 0 then ['-'] else []
  let wanted :=
    match placeholder.precision? with
    | some precision => precision
    | none =>
      if placeholder.zeros && !placeholder.left then placeholder.width - sign.length else 0
  let padded := List.replicate (wanted - digits.length) '0' ++ digits
  placeholder.pad (Text.encode (sign ++ padded))

/-- What the placeholder prints for an argument. -/
def print (placeholder : Placeholder) (argument : String) : Printed :=
  let cut (bytes : List UInt8) : List UInt8 :=
    match placeholder.precision? with
    | some precision => bytes.take precision
    | none => bytes
  if placeholder.letter == 's' then
    .ofBytes (placeholder.pad (cut (Text.encode argument.toList)))
  else if placeholder.letter == 'b' then
    let printed := unescape true argument
    { printed with bytes := placeholder.pad (cut printed.bytes) }
  else if placeholder.letter == 'c' then
    .ofBytes (placeholder.pad ((Text.encode argument.toList).take 1))
  else if argument.isEmpty then .ofBytes (placeholder.digits 0)
  else
    match integer? argument with
    | some value => .ofBytes (placeholder.digits value)
    | none => ⟨placeholder.digits 0, false, [argument]⟩

end Placeholder

/-- The pieces of a format: literal texts with the placeholders behind them. The literal read so far
is given in reverse; `skip` counts characters that were taken already. -/
def formatPieces (skip : Nat) (literal : List Char) :
    List Char → List (List Char × Option Placeholder)
  | [] => [(literal.reverse, none)]
  | char :: rest =>
    match skip with
    | skip + 1 => formatPieces skip literal rest
    | 0 =>
      if char != '%' then formatPieces 0 (char :: literal) rest
      else if rest.head? == some '%' then formatPieces 1 ('%' :: literal) rest
      else
        match Placeholder.at? rest with
        | some (placeholder, length) =>
          (literal.reverse, some placeholder) :: formatPieces length [] rest
        | none => formatPieces 0 ('%' :: literal) rest

/-- Print a format once; tells which arguments are left. -/
def printOnce : List (List Char × Option Placeholder) → List String → Printed × List String
  | [], arguments => (.nothing, arguments)
  | (literal, placeholder?) :: rest, arguments =>
    let first := unescapeFrom false 0 literal
    if first.stopped then (first, [])
    else
      match placeholder? with
      | none =>
        let (others, arguments) := printOnce rest arguments
        (first.behind others, arguments)
      | some placeholder =>
        let second := first.behind (placeholder.print (arguments.headD ""))
        if second.stopped then (second, [])
        else
          let (others, arguments) := printOnce rest arguments.tail
          (second.behind others, arguments)

/-- Print a format until no argument is left, at most `times` times. -/
def printRepeated (pieces : List (List Char × Option Placeholder)) : Nat → List String → Printed
  | 0, _ => .nothing
  | times + 1, arguments =>
    let (printed, left) := printOnce pieces arguments
    if printed.stopped || left.isEmpty || pieces.all (·.2.isNone) then printed
    else printed.behind (printRepeated pieces times left)

/-- Print arguments by a format. -/
def printFormat (format : String) (arguments : List String) : Printed :=
  printRepeated (formatPieces 0 [] format.toList) (arguments.length + 1) arguments

/-- The bytes of arguments with spaces between them, escapes replaced, and a line feed behind them
unless the first argument is the option against it. -/
def printEcho (arguments : List String) : List UInt8 :=
  let quiet := arguments.head? == some "-n"
  let printed := unescape true (" ".intercalate (if quiet then arguments.tail else arguments))
  if quiet || printed.stopped then printed.bytes else printed.bytes ++ [10]

end Scaffold.Shell
