import SqlTemplate.Text

/-! # Painted characters and the terminal's colour codes -/
namespace SqlTemplate.Excerpt

inductive Color where
  | red
  | cyan
  /-- A colour of the palette of 256. -/
  | palette (index : Nat)
deriving DecidableEq, Repr

namespace Color

def code : Color → Text
  | .red => ['3', '1']
  | .cyan => ['3', '6']
  | .palette index => "38;5;".toList ++ Text.decimal index

/-- Line numbers and the frame. -/
def frame : Color := .palette 246

/-- The frame beside rows without a line number. -/
def dimFrame : Color := .palette 240

/-- Source text outside every label. -/
def unlabelled : Color := .palette 249

def help : Color := .palette 115

def advice : Color := .palette 147

end Color

/-- A text between the codes that switch a colour on and off. -/
def paint (color : Color) (t : Text) : Text :=
  '\x1b' :: '[' :: color.code ++ 'm' :: t ++ ['\x1b', '[', '0', 'm']

/-- One character, painted or not. -/
structure Cell where
  glyph : Char
  color : Option Color
deriving DecidableEq, Repr

namespace Cell

def blank : Cell := ⟨' ', none⟩

def painted (color : Color) (glyph : Char) : Cell := ⟨glyph, some color⟩

def render (c : Cell) : Text :=
  match c.color with
  | none => [c.glyph]
  | some color => paint color [c.glyph]

end Cell

end SqlTemplate.Excerpt
