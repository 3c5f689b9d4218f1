/-!
# Coloured text

* `Style`: a colour, bold or dimmed.
* `Palette`: whether styles are shown at all.
* `Palette.paint`: a text in a style, between a mark and a reset.
-/

namespace SessionReplay

inductive Shade where
  | red
  | green
  | yellow
  | cyan
  deriving DecidableEq, Repr

def Shade.code : Shade → String
  | red => "31"
  | green => "32"
  | yellow => "33"
  | cyan => "36"

structure Style where
  bold : Bool := false
  dimmed : Bool := false
  shade : Option Shade := none
  deriving DecidableEq, Repr

namespace Style

def plain (shade : Shade) : Style := { shade := some shade }

def strong (shade : Shade) : Style := { bold := true, shade := some shade }

def heading : Style := { bold := true }

def faint : Style := { dimmed := true }

def codes (s : Style) : List String :=
  (if s.bold then ["1"] else []) ++ (if s.dimmed then ["2"] else [])
    ++ (s.shade.map Shade.code).toList

/-- What a terminal is sent to begin a style. -/
def mark (s : Style) : String := "\x1b[" ++ String.intercalate ";" s.codes ++ "m"

/-- What a terminal is sent to end all styles. -/
def reset : String := "\x1b[0m"

end Style

structure Palette where
  isShown : Bool
  deriving DecidableEq, Repr

/-- A reset that is part of the text does not end the style. -/
def Palette.paint (p : Palette) (s : Style) (text : String) : String :=
  if p.isShown then
    s.mark ++ String.intercalate (Style.reset ++ s.mark) (text.splitOn Style.reset) ++ Style.reset
  else text

end SessionReplay
