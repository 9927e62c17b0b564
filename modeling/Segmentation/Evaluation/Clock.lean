import Segmentation.Value.Reading

/-!
# Clocks

A clock answers each question for the time with some value. An answer that denotes no moment is replaced by
the time of the system.
-/

namespace Segmentation

open Calendar

/-- A source of reference times: what it answers to each question, and how many were put to it. -/
structure Clock where
  answer : Nat → Value
  asked : Nat := 0

namespace Clock

/-- A clock that always shows one time. -/
def fixed (d : DateTime) : Clock where
  answer := fun _ => .datetime d

/-- A clock without an answer of its own. -/
def system : Clock where
  answer := fun _ => .null

/-- A clock that gives the answers of a list in turn and repeats the last one. -/
def ofAnswers (answers : List Value) : Clock where
  answer := fun n => (answers[n]? <|> answers.getLast?).getD .null

/-- One reading, and the clock after it. -/
def read (c : Clock) (systemTime : DateTime) : DateTime × Clock :=
  ((c.answer c.asked).moment?.getD systemTime, { c with asked := c.asked + 1 })

end Clock

end Segmentation
