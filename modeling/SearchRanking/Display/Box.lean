import SearchRanking.Display.Palette
import SearchRanking.Display.Width

namespace SearchRanking.Display

/-- The columns between the left and the right border. -/
def boxWidth : Nat := 80

structure Section where
  label : String
  rows : List String

/-- The rule above a section; the first one closes the frame at its top. -/
def ruleLine (paint : Paint) (first : Bool) (label : String) : String :=
  let heading := "─ " ++ painted paint .cyan true label ++ " "
  borderCode paint ++ (if first then "┌" else "├") ++ borderReset paint ++ heading ++
    borderCode paint ++ repeated (boxWidth - visibleLength heading) '─' ++
    (if first then "┐" else "┤") ++ borderReset paint

def rowLine (paint : Paint) (row : String) : String :=
  borderCode paint ++ "│" ++ borderReset paint ++ padRight row boxWidth ++
    borderCode paint ++ "│" ++ borderReset paint

def bottomLine (paint : Paint) : String :=
  borderCode paint ++ "└" ++ repeated boxWidth '─' ++ "┘" ++ borderReset paint

def sectionLines (paint : Paint) (first : Bool) (part : Section) : List String :=
  ruleLine paint first part.label :: part.rows.map (rowLine paint)

def boxLines (paint : Paint) : List Section → List String
  | [] => [bottomLine paint]
  | part :: parts =>
      sectionLines paint true part ++ parts.flatMap (sectionLines paint false) ++ [bottomLine paint]

end SearchRanking.Display
