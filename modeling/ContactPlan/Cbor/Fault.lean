import ContactPlan.Cbor.Header

namespace ContactPlan.Cbor

/-- A reader says what it wants at the place where it stands. -/
inductive Expectation where
  | array
  | integer
  | bytes
  | record
  | knownSimple
  | nonBreak

def Expectation.text : Expectation → String
  | .array => "array"
  | .integer => "integer"
  | .bytes => "bytes"
  | .record => "an array of 6 integers"
  | .knownSimple => "known simple value"
  | .nonBreak => "non-break"

/-- The reasons why a well-formed item does not fit. -/
inductive Misfit where
  | wrongType (found : Header) (expected : Expectation)
  | wrongLength (fields : Nat)
  | wideField (value : Nat)
  | negativeInteger
  | largeInteger
  | largeBigNumber
  | deepNesting

def Misfit.text : Misfit → String
  | .wrongType found expected =>
      "invalid type: " ++ found.describe ++ ", expected " ++ expected.text
  | .wrongLength fields =>
      "invalid length " ++ Decimal.write fields ++ ", expected " ++ Expectation.record.text
  | .wideField value => "invalid value: integer `" ++ Decimal.write value ++ "`, expected u32"
  | .negativeInteger => "unexpected negative integer"
  | .largeInteger => "integer too large"
  | .largeBigNumber => "bigint too large"
  | .deepNesting => "nesting too deep"

/-- Bytes end too early, break the format, or hold an item of another shape. -/
inductive Fault where
  | truncated
  | malformed (offset : Nat)
  | misfit (misfit : Misfit)

end ContactPlan.Cbor
