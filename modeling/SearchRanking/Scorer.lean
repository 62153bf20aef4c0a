import SearchRanking.Pattern

namespace SearchRanking

/-- Gives every record its effective score. -/
abbrev Scorer := Record → Score

namespace Scorer

def host : Scorer := fun record => record.score

/-- The penalty for generated pages, and the host's score for the others. -/
def demoting (pattern : Pattern) (penalty : Score) : Scorer := fun record =>
  if pattern.recognizesRecord record then penalty else record.score

/-- Minus five: below every score that is not negative. -/
def standardPenalty : Score where
  negative := true
  magnitude := 0x4014000000000000
  magnitude_lt := by decide

def standard : Scorer := demoting Pattern.standard standardPenalty

/-- The standard rule by path alone, a missing filename counting as an empty one. -/
def byPath : Scorer := fun record =>
  if Pattern.standard.recognizes (record.filename.getD "") then standardPenalty else record.score

end Scorer

end SearchRanking
