/-!
# Arithmetic of a shell

Expressions over integers with the usual precedence. A name stands for its value, or for zero.
-/

namespace Scaffold.Shell

/-- A piece of an expression. -/
inductive ArithmeticToken where
  | number (value : Int)
  | name (text : String)
  | sign (text : String)
  deriving Repr, DecidableEq

/-- Why an expression has no value. -/
inductive ArithmeticFault where
  | malformed
  | divisionByZero
  deriving Repr, DecidableEq

/-- The words for a fault in an expression. -/
def ArithmeticFault.message (expression : String) : ArithmeticFault → String
  | malformed => "arithmetic expression: expecting primary: \"" ++ expression ++ "\""
  | divisionByZero => "arithmetic expression: division by zero: \"" ++ expression ++ "\""

/-- The signs of expressions, the longer ones first. -/
def arithmeticSigns : List (List Char) :=
  [['|', '|'], ['&', '&'], ['=', '='], ['!', '='], ['<', '='], ['>', '='], ['+'], ['-'], ['*'],
    ['/'], ['%'], ['<'], ['>'], ['('], [')'], ['!']]

/-- Cut an expression into pieces; `skip` counts characters that were taken already. -/
def arithmeticTokens (skip : Nat) : List Char → Except ArithmeticFault (List ArithmeticToken)
  | [] => .ok []
  | char :: rest =>
    match skip with
    | skip + 1 => arithmeticTokens skip rest
    | 0 =>
      if char == ' ' || char == '\t' || char == '\n' then arithmeticTokens 0 rest
      else if char.isDigit then do
        let digits := char :: rest.takeWhile Char.isDigit
        let value : Int := ((String.ofList digits).toNat?.getD 0 : Nat)
        return .number value :: (← arithmeticTokens (digits.length - 1) rest)
      else if char.isAlpha || char == '_' then do
        let name := char :: rest.takeWhile fun char => char.isAlphanum || char == '_'
        return .name (String.ofList name) :: (← arithmeticTokens (name.length - 1) rest)
      else
        match arithmeticSigns.find? (·.isPrefixOf (char :: rest)) with
        | some sign => do
          return .sign (String.ofList sign) :: (← arithmeticTokens (sign.length - 1) rest)
        | none => .error .malformed

/-- The signs between two operands, those that bind least first. -/
def precedence : List (List String) :=
  [["||"], ["&&"], ["==", "!="], ["<=", ">=", "<", ">"], ["+", "-"], ["*", "/", "%"]]

/-- The integer for a truth value. -/
def ofTruth (value : Bool) : Int := if value then 1 else 0

/-- The value of two operands with a sign between them. -/
def applySign (sign : String) (left right : Int) : Except ArithmeticFault Int :=
  match sign with
  | "||" => .ok (ofTruth (left != 0 || right != 0))
  | "&&" => .ok (ofTruth (left != 0 && right != 0))
  | "==" => .ok (ofTruth (left == right))
  | "!=" => .ok (ofTruth (left != right))
  | "<=" => .ok (ofTruth (left ≤ right))
  | ">=" => .ok (ofTruth (right ≤ left))
  | "<" => .ok (ofTruth (left < right))
  | ">" => .ok (ofTruth (right < left))
  | "+" => .ok (left + right)
  | "-" => .ok (left - right)
  | "*" => .ok (left * right)
  | "/" => if right == 0 then .error .divisionByZero else .ok (left.tdiv right)
  | "%" => if right == 0 then .error .divisionByZero else .ok (left.tmod right)
  | _ => .error .malformed

/-- Reading the value of an expression from its pieces. -/
abbrev ArithmeticReader := StateT (List ArithmeticToken) (Except ArithmeticFault)

namespace ArithmeticReader

/-- Take the next piece. -/
def next? : ArithmeticReader (Option ArithmeticToken) := do
  let tokens ← get
  set tokens.tail
  return tokens.head?

/-- Go over one of some signs if it is next. -/
def accept? (signs : List String) : ArithmeticReader (Option String) := do
  match (← get).head? with
  | some (.sign sign) =>
    if signs.contains sign then
      modify List.tail
      return some sign
    else return none
  | _ => return none

mutual

/-- Read an operand. All readers go at most `depth` steps deep. -/
def operand (valueOf : String → Int) (depth : Nat) : ArithmeticReader Int :=
  match depth with
  | 0 => throw .malformed
  | depth + 1 => do
    match ← next? with
    | some (.number value) => return value
    | some (.name name) => return valueOf name
    | some (.sign "-") => return -(← operand valueOf depth)
    | some (.sign "+") => operand valueOf depth
    | some (.sign "!") => return ofTruth ((← operand valueOf depth) == 0)
    | some (.sign "(") =>
      let value ← level valueOf depth precedence
      match ← accept? [")"] with
      | some _ => return value
      | none => throw .malformed
    | _ => throw .malformed

/-- Read operands with signs of a level, or of one that binds more, between them. -/
def level (valueOf : String → Int) (depth : Nat) (levels : List (List String)) :
    ArithmeticReader Int :=
  match depth with
  | 0 => throw .malformed
  | depth + 1 =>
    match levels with
    | [] => operand valueOf depth
    | signs :: others => do rest valueOf depth signs others (← level valueOf depth others)

/-- Read what follows an operand on its level. -/
def rest (valueOf : String → Int) (depth : Nat) (signs : List String)
    (others : List (List String)) (left : Int) : ArithmeticReader Int :=
  match depth with
  | 0 => throw .malformed
  | depth + 1 => do
    match ← accept? signs with
    | none => return left
    | some sign =>
      let right ← level valueOf depth others
      rest valueOf depth signs others (← applySign sign left right)

end

end ArithmeticReader

/-- The value of an expression. -/
def evaluate (valueOf : String → Int) (expression : String) : Except ArithmeticFault Int := do
  let tokens ← arithmeticTokens 0 expression.toList
  if tokens.isEmpty then return 0
  let (value, left) ←
    ArithmeticReader.level valueOf (12 * tokens.length + 12) precedence tokens
  if left.isEmpty then return value else throw .malformed

end Scaffold.Shell
