/-!
# Styled text

Output for people is a list of pieces, some of them with a color. The same pieces are written with
or without escape sequences.
-/

namespace TermScore

inductive Color where
  | red
  | green
  | yellow
  | magenta
  | cyan
deriving DecidableEq, Repr

/-- The digit of a foreground color. -/
def Color.code : Color → String
  | .red => "1"
  | .green => "2"
  | .yellow => "3"
  | .magenta => "5"
  | .cyan => "6"

structure Style where
  color : Color
  bold : Bool
deriving DecidableEq, Repr

structure Piece where
  text : String
  style : Option Style
deriving DecidableEq, Repr

namespace Terminal

def plain (text : String) : Piece :=
  ⟨text, none⟩

def colored (color : Color) (text : String) : Piece :=
  ⟨text, some ⟨color, false⟩⟩

def bold (color : Color) (text : String) : Piece :=
  ⟨text, some ⟨color, true⟩⟩

/-- An escape sequence that sets one attribute. -/
def sequence (code : String) : String :=
  "\x1b[" ++ code ++ "m"

def reset : String := sequence "0"

/-- The attributes are set from a clean state, and reset after the text. -/
def writeStyled (style : Style) (text : String) : String :=
  reset ++ (if style.bold then sequence "1" else "") ++ sequence ("3" ++ style.color.code)
    ++ text ++ reset

def writePiece (useColor : Bool) (p : Piece) : String :=
  match p.style with
  | some style => if useColor then writeStyled style p.text else p.text
  | none => p.text

def write (useColor : Bool) (pieces : List Piece) : String :=
  String.join (pieces.map (writePiece useColor))

end Terminal

end TermScore
