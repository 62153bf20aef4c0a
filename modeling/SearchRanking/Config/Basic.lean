import SearchRanking.Scorer

namespace SearchRanking

structure Config where
  penalty : Score
  root : List String
  leaf : String
  deriving DecidableEq

inductive ConfigFault where
  | penaltyNotFinite (penalty : Score)
  | emptyRoot
  | emptySegment
  | slashInSegment (segment : String)
  deriving DecidableEq

/-- Scores on their own have the fewest digits that read back, without an exponent, and whole
numbers have no point. -/
def plainLayout : Layout where
  positional _ := true
  keepsPoint := false
  marksPlus := false
  tie := .up
  notANumber := "NaN"
  infinity := "inf"
  negativeInfinity := "-inf"

def ConfigFault.message : ConfigFault → String
  | .penaltyNotFinite penalty => "penalty must be finite, got " ++ penalty.written plainLayout
  | .emptyRoot => "root must name at least one segment"
  | .emptySegment => "path segments must not be empty"
  | .slashInSegment segment => "path segment " ++ Text.quoted segment ++ " must not contain '/'"

namespace Config

def standard : Config where
  penalty := Scorer.standardPenalty
  root := Pattern.standard.root
  leaf := Pattern.standard.leaf

def pattern (config : Config) : Pattern where
  root := config.root
  leaf := config.leaf

def scorer (config : Config) : Scorer := Scorer.demoting config.pattern config.penalty

def checkSegment (segment : String) : Except ConfigFault Unit :=
  if segment.isEmpty then .error .emptySegment
  else if segment.toList.contains '/' then .error (.slashInSegment segment)
  else .ok ()

/-- The first fault of a configuration: in the penalty, in the number of root segments, then in the
segments from the root to the leaf. -/
def validate (config : Config) : Except ConfigFault Unit :=
  if !config.penalty.isFinite then .error (.penaltyNotFinite config.penalty)
  else if config.root.isEmpty then .error .emptyRoot
  else (config.root ++ [config.leaf]).forM checkSegment

def validated (config : Config) : Except ConfigFault Config := do
  config.validate
  .ok config

/-- Puts another penalty in place, if one is given, and validates the result. -/
def withPenalty (config : Config) (penalty : Option Score) : Except ConfigFault Config :=
  { config with penalty := penalty.getD config.penalty }.validated

end Config

end SearchRanking
