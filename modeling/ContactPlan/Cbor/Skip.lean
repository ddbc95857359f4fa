import ContactPlan.Cbor.Segment

namespace ContactPlan.Cbor

/-- Containers and tags may be nested in this many levels. -/
def nestingLimit : Nat := 256

/-- A container needs a level of nesting for what it holds. -/
def nested {Value : Type} (inner : Option (Reader Unit)) (content : Reader Unit → Reader Value) :
    Reader Value :=
  match inner with
  | some inner => content inner
  | none => Reader.reject .deepNesting

/-- The value of a big number and whether it is negative. -/
structure BigNumber where
  negative : Bool
  value : Nat

/-- A byte string follows the tag of a big number. -/
def bigNumber (negative : Bool) : Reader BigNumber :=
  header.andThen fun next =>
  match next with
  | .bytes length =>
      (string .bytes bigNumberBuilder 0 [] length).map fun digits =>
        ⟨negative, BigEndian.read digits⟩
  | next => Reader.reject (.wrongType next .bytes)

/-- A short byte string behind a big number tag is a number of 128 bits with its sign. -/
def skipBigNumber (negative : Bool) : Reader Unit :=
  (bigNumber negative).andThen fun number =>
  if number.negative ∧ Nat.pow 2 127 ≤ number.value then Reader.reject .largeInteger
  else Reader.done ()

/-- The header behind a tag is looked at before a level of nesting is taken.
A short byte string behind the tag of a big number takes none. -/
def skipTagged (inner : Option (Reader Unit)) (number : Nat) : Reader Unit :=
  (Reader.peek header).andThen fun next =>
  match next with
  | .bytes (some length) =>
      if (number = positiveBigTag ∨ number = negativeBigTag) ∧ length ≤ 16 then
        skipBigNumber (number = negativeBigTag)
      else nested inner id
  | _ => nested inner id

/-- A text is reported as if its header had the shortest form. -/
def textStart (stop : Nat) : Option Nat → Nat
  | some length => stop - (1 + argumentWidth length)
  | none => stop - 1

/-- The reader of inner items is missing when no level of nesting is left. -/
def skipWith (inner : Option (Reader Unit)) : Reader Unit :=
  header.andThen fun next =>
  Reader.offset.andThen fun stop =>
  match next with
  | .unsigned _ => Reader.done ()
  | .negative _ => Reader.done ()
  | .float _ => Reader.done ()
  | .bytes length => string .bytes ignorer stop () length
  | .text length => (string .text textChecker (textStart stop length) [] length).map fun _ => ()
  | .array length => nested inner fun inner => (items inner length).map fun _ => ()
  | .map length =>
      nested inner fun inner =>
        (items (inner.andThen fun _ => inner) length).map fun _ => ()
  | .tag number => skipTagged inner number
  | .simple number =>
      if 20 ≤ number ∧ number ≤ 23 then Reader.done ()
      else Reader.reject (.wrongType (.simple number) .knownSimple)
  | .stop => Reader.reject (.wrongType .stop .nonBreak)

/-- An item is passed over with the given number of levels left. -/
def skip : Nat → Reader Unit
  | 0 => skipWith none
  | levels + 1 => skipWith (some (skip levels))

end ContactPlan.Cbor
