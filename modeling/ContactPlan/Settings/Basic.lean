import ContactPlan.Link.Router
import ContactPlan.Settings.Draft

namespace ContactPlan

/-- A static route is announced when the router starts. -/
structure StaticRoute where
  network : Network
  attributes : Attributes
  deriving DecidableEq

/-- Invalid contacts are kept here and refused later. -/
structure Settings where
  routerId : Address
  own : Asn
  storePath : String
  exportPath : Option String
  neighbors : List Neighbor
  routes : List StaticRoute
  contacts : ContactSet

namespace Settings

/-- A draft that cannot be read is not told apart further. -/
inductive Fault where
  | unreadable
  | wrongAsn (text : String)
  deriving DecidableEq

def Fault.message : Fault → String
  | .unreadable => "*"
  | .wrongAsn text => Asn.complaint text

/-- The first text that names no system is reported. -/
def readPath : List String → Except Fault (List Asn)
  | [] => .ok []
  | text :: rest =>
      match Asn.ofText? text with
      | none => .error (.wrongAsn text)
      | some asn => (readPath rest).map (asn :: ·)

/-- Capital letters do not count, and any other word means that the origin is not known. -/
def originOf (text : String) : Origin :=
  let word := text.toList.map Char.toLower
  if word = "igp".toList then .interior
  else if word = "egp".toList then .exterior
  else .incomplete

/-- An origin that is missing is not known. -/
def RouteDraft.attributes (draft : RouteDraft) (path : List Asn) : Attributes :=
  { nextHop := some draft.nextHop
    origin := (draft.origin.map originOf).getD .incomplete
    segments := Segment.ofPath path
    localPreference := draft.localPreference
    discriminator := draft.discriminator }

/-- The first route with a wrong path is reported. -/
def readRoutes : List RouteDraft → Except Fault (List StaticRoute)
  | [] => .ok []
  | draft :: rest =>
      match readPath draft.path with
      | .error fault => .error fault
      | .ok path => (readRoutes rest).map (⟨draft.network, draft.attributes path⟩ :: ·)

/-- Of several declarations of one contact the last counts. -/
def ofDraft (draft : Draft) : Except Fault Settings :=
  (readRoutes draft.routes).map fun routes =>
    { routerId := draft.routerId
      own := draft.own
      storePath := draft.storePath
      exportPath := draft.exportPath
      neighbors := draft.neighbors
      routes := routes
      contacts := ContactSet.ofList draft.contacts }

def ofText (text : String) : Except Fault Settings :=
  match Draft.ofText? text with
  | none => .error .unreadable
  | some draft => ofDraft draft

def router (settings : Settings) : Router := ⟨settings.own, settings.neighbors⟩

/-- The static routes are announced in their order. -/
def table (settings : Settings) : Table :=
  settings.routes.foldl
    (fun table route => table.announce route.network route.attributes .configured) Table.empty

end Settings

end ContactPlan
