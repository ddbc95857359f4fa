import ContactPlan.Address.Network
import ContactPlan.Asn

namespace ContactPlan

/-- The systems of a sequence are crossed in order, and those of a set in any order. -/
inductive Segment where
  | sequence (asns : List Asn)
  | unordered (asns : List Asn)
  deriving DecidableEq

def Segment.asns : Segment → List Asn
  | .sequence asns => asns
  | .unordered asns => asns

inductive Origin where
  | interior
  | exterior
  | incomplete
  deriving DecidableEq

/-- A path is flat when it is one sequence, and the empty path has no segment. -/
def Segment.ofPath : List Asn → List Segment
  | [] => []
  | path => [.sequence path]

/-- The systems of all segments stand one after the other. -/
def Segment.flatten (segments : List Segment) : List Asn := segments.flatMap Segment.asns

@[simp] theorem Segment.flatten_ofPath (path : List Asn) :
    Segment.flatten (Segment.ofPath path) = path := by
  cases path <;> simp [ofPath, flatten, asns]

structure Attributes where
  nextHop : Option Address
  origin : Origin
  segments : List Segment
  localPreference : Option UInt32
  discriminator : Option UInt32
  deriving DecidableEq

/-- All systems of a route in the order in which they are written. -/
def Attributes.path (attributes : Attributes) : List Asn := Segment.flatten attributes.segments

/-- A derived route keeps its origin and its preferences. -/
def Attributes.reroute (attributes : Attributes) (segments : List Segment)
    (nextHop : Option Address) : Attributes :=
  { attributes with segments := segments, nextHop := nextHop }

/-- A dash stands for a missing next hop. -/
def Attributes.text (attributes : Attributes) : String :=
  let nextHop :=
    match attributes.nextHop with
    | some address => address.text
    | none => "-"
  "<PathAttributes next_hop=" ++ nextHop ++ " as_path=[" ++ Asn.pathText attributes.path ++ "]>"

end ContactPlan
