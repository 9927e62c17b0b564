/-!
# Failures of reading a value

The causes for which a value has no text, number or moment although it is of the right kind. They make a
condition fail to decide.
-/

namespace Segmentation

/-- Why a value could not be read. -/
inductive Failure where
  /-- An integer has more digits than a text may have. -/
  | integerTooLong
  /-- An integer is larger than every floating-point number. -/
  | numberTooLarge
  /-- A decimal signals that it is not a number. -/
  | signallingNan
  /-- A number of days is too large for a span of time. -/
  | spanTooLong
  /-- A day lies outside the years 1 to 9999. -/
  | dayOutOfRange
deriving DecidableEq, Repr

end Segmentation
