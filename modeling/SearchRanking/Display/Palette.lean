import SearchRanking.Decimal.Literal
import SearchRanking.Text.Basic
import SearchRanking.Text.Lowercase

namespace SearchRanking.Display

inductive Theme where
  | dark
  | light
  deriving DecidableEq

inductive Hue where
  | red
  | green
  | yellow
  | cyan
  | gray
  deriving DecidableEq

def Theme.colour : Theme → Hue → Nat × Nat × Nat
  | .dark, .red => (224, 108, 117)
  | .dark, .green => (152, 195, 121)
  | .dark, .yellow => (229, 192, 123)
  | .dark, .cyan => (86, 182, 194)
  | .dark, .gray => (92, 99, 112)
  | .light, .red => (228, 86, 73)
  | .light, .green => (80, 161, 79)
  | .light, .yellow => (193, 132, 1)
  | .light, .cyan => (1, 132, 188)
  | .light, .gray => (160, 161, 167)

/-- Whether colours are used, and which. -/
abbrev Paint := Option Theme

def resetCode : String := "\x1b[0m"

def boldCode : String := "\x1b[1m"

def Theme.code (theme : Theme) (hue : Hue) : String :=
  let (red, green, blue) := theme.colour hue
  "\x1b[38;2;" ++ red.repr ++ ";" ++ green.repr ++ ";" ++ blue.repr ++ "m"

def painted (paint : Paint) (hue : Hue) (bold : Bool) (text : String) : String :=
  match paint with
  | none => text
  | some theme => (if bold then boldCode else "") ++ theme.code hue ++ text ++ resetCode

def borderCode (paint : Paint) : String :=
  match paint with
  | none => ""
  | some theme => theme.code .gray

def borderReset (paint : Paint) : String :=
  match paint with
  | none => ""
  | some _ => resetCode

def Theme.ofName? (name : String) : Option Theme :=
  let lower := Text.lowercase name
  if lower = "light" || lower = "l" then some .light
  else if lower = "dark" || lower = "d" then some .dark
  else none

/-- The theme for a terminal that tells its colours, the background behind the last semicolon:
numbers of eight bits from 7 on are light, except the dark gray 8. -/
def Theme.ofBackground (colours : String) : Theme :=
  match (Text.pieces ';' colours.toList).getLast?.bind (Decimal.boundedOf? 256) with
  | some background => if 7 ≤ background && background ≠ 8 then .light else .dark
  | none => .dark

/-- The theme by name, else by the colours of the terminal, else dark. -/
def Theme.choose (name colours : Option String) : Theme :=
  (name.bind Theme.ofName?).getD ((colours.map Theme.ofBackground).getD .dark)

end SearchRanking.Display
