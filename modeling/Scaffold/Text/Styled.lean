import Scaffold.Text.Substitution

/-!
# Coloured text

Text coloured with terminal escape sequences, by a painter that may be any. The painter that is used
writes a text between the sequence that opens its colour and the sequence that resets it; where the
text itself contains a reset, the colour is opened again.
-/

namespace Scaffold.Text

/-- A colour of the terminal. -/
inductive Colour where
  | red
  | green
  | blue
  | magenta
  | cyan
  | brightBlack
  deriving Repr, DecidableEq

/-- The number of the colour in an escape sequence. -/
def Colour.code : Colour → String
  | .red => "31"
  | .green => "32"
  | .blue => "34"
  | .magenta => "35"
  | .cyan => "36"
  | .brightBlack => "90"

/-- The sequence that returns to the default colour. -/
def resetSequence : String := "\x1b[0m"

/-- The sequence that opens the colour. -/
def Colour.openSequence (colour : Colour) : String := "\x1b[" ++ colour.code ++ "m"

/-- The text in the colour. -/
def Colour.paint (colour : Colour) (text : String) : String :=
  colour.openSequence ++
    replaceAll resetSequence (resetSequence ++ colour.openSequence) text ++ resetSequence

/-- What colours texts. -/
class Painter where
  /-- The text in the colour. -/
  paint : Colour → String → String

instance : Painter := ⟨Colour.paint⟩

/-- The text in the colour where colours are shown, and as it is elsewhere. -/
def paintIf [Painter] (colours : Bool) (colour : Colour) (text : String) : String :=
  if colours then Painter.paint colour text else text

end Scaffold.Text
