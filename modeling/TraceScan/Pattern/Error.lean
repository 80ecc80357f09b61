/-!
# Errors in the text of a pattern

Why a text is not a pattern. The causes tell the readers of a pattern apart; what users are shown
is one text for all of them (`RegistrationError.message`).
-/

namespace TraceScan

/-- Why a text is not a pattern. -/
inductive PatternError where
  | groupUnclosed
  | groupUnopened
  | groupNameInvalid
  | groupNameRepeated
  | lookAround
  | flagsInvalid
  | repetitionMissing
  | repetitionInvalid
  | classUnclosed
  | classItemInvalid
  | classRangeInvalid
  | escapeUnfinished
  | escapeUnknown
  | escapeHexInvalid
  | backReference
  | wordEdgeUnknown
  | propertyUnknown
  /-- A class or property of all characters, where only plain ones may be named. -/
  | notPlain
  | tooDeep
  | tooLarge
  deriving DecidableEq, Repr

end TraceScan
