import ContactPlan.Link.Crossing

/-
This file finds the paths that become possible when a contact opens.
The head of one path is joined across the contact to the tail of another.
-/

namespace ContactPlan.Splice

/-- Only the first of equal elements is kept. -/
def distinct {Element : Type} [DecidableEq Element] : List Element → List Element
  | [] => []
  | first :: rest => first :: (distinct rest).filter (· ≠ first)

@[simp] theorem distinct_nil {Element : Type} [DecidableEq Element] :
    distinct ([] : List Element) = [] := rfl

/-- A path is cut after the router or after a hop, as long as a hop follows the cut. -/
structure Cut where
  head : List Asn
  hop : Asn

/-- The head ends with the hop and leaves the router out. -/
def cuts (own : Asn) (path : List Asn) : List Cut :=
  ((own :: path).zip (List.range path.length)).map fun (hop, length) => ⟨path.take length, hop⟩

/-- A tail starts with the given system and does not lead straight back to the hop. -/
def tails (start hop : Asn) : List Asn → List (List Asn)
  | [] => []
  | asn :: rest =>
      if asn = start ∧ rest.head? ≠ some hop then (asn :: rest) :: tails start hop rest
      else tails start hop rest

/-- The head of a cut is joined to every tail that starts at the other side of the contact. -/
def Cut.join (cut : Cut) (contact : Contact) (others : List (List Asn)) : List (List Asn) :=
  match contact.otherAsn? cut.hop with
  | some start =>
      others.flatMap fun other => (tails start cut.hop other).map fun tail => cut.head ++ tail
  | none => []

/-- A path that crosses the contact already has no candidates. -/
def candidates (contact : Contact) (own : Asn) (path : List Asn) (others : List (List Asn)) :
    List (List Asn) :=
  if contact.crossedBy own path then []
  else distinct ((cuts own path).flatMap fun cut => cut.join contact others)

end ContactPlan.Splice
