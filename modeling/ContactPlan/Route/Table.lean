import ContactPlan.Route.Attributes

namespace ContactPlan

/-- A route is configured or comes from a contact. -/
inductive Source where
  | configured
  | contact
  deriving DecidableEq

/-- A source is written as it is named in listings. -/
def Source.text : Source → String
  | .configured => "Config"
  | .contact => "Contact"

/-- A route leads to its network along the path of its attributes. -/
structure Route where
  id : Nat
  network : Network
  attributes : Attributes
  source : Source
  deriving DecidableEq

def Route.path (route : Route) : List Asn := route.attributes.path

/-- The age is the time since the route was announced. -/
def Route.text (route : Route) (age : String) : String :=
  "<Entry id=" ++ Decimal.write route.id ++ " prefix=" ++ route.network.text ++ " source=" ++
    route.source.text ++ " age=" ++ age ++ " " ++ route.attributes.text ++ ">"

/-- A change is decided first and applied to a table later. -/
inductive RouteChange where
  | announce (network : Network) (attributes : Attributes) (source : Source)
  | withdraw (network : Network) (id : Nat)
  deriving DecidableEq

def RouteChange.text : RouteChange → String
  | .announce network attributes _ => "announce " ++ network.text ++ " " ++ attributes.text
  | .withdraw network id => "withdraw " ++ network.text ++ " (route " ++ Decimal.write id ++ ")"

/-- The routes stand in the order of their announcement. -/
structure Table where
  routes : List Route
  nextId : Nat

def Table.empty : Table := ⟨[], 1⟩

def Table.size (table : Table) : Nat := table.routes.length

def Table.isEmpty (table : Table) : Bool := table.routes.isEmpty

/-- A network that is present already is not inserted again. -/
def Network.insertInto (network : Network) : List Network → List Network
  | [] => [network]
  | head :: rest =>
      if network.rank < head.rank then network :: head :: rest
      else if network = head then head :: rest
      else head :: network.insertInto rest

/-- Every network with a route is listed once, in ascending order. -/
def Table.networks (table : Table) : List Network :=
  table.routes.foldr (fun route networks => route.network.insertInto networks) []

/-- The routes to one network keep their order. -/
def Table.routesTo (table : Table) (network : Network) : List Route :=
  table.routes.filter fun route => route.network = network

/-- A listing goes through the networks and keeps the order within each. -/
def Table.listing (table : Table) : List Route := table.networks.flatMap table.routesTo

def Table.routesFrom (table : Table) (source : Source) : List Route :=
  table.listing.filter fun route => route.source = source

/-- An announced route takes the next number. -/
def Table.announced (table : Table) (network : Network) (attributes : Attributes)
    (source : Source) : Route :=
  ⟨table.nextId, network, attributes, source⟩

/-- A new route stands behind all others. -/
def Table.announce (table : Table) (network : Network) (attributes : Attributes)
    (source : Source) : Table :=
  ⟨table.routes ++ [table.announced network attributes source], table.nextId + 1⟩

/-- A route is named by its network and its number. -/
def Table.has (table : Table) (network : Network) (id : Nat) : Bool :=
  table.routes.any fun route => route.network = network && route.id = id

/-- A withdrawal keeps the order of the other routes. -/
def Table.withdraw (table : Table) (network : Network) (id : Nat) : Table :=
  { table with
    routes := table.routes.filter fun route => !(route.network = network && route.id = id) }

/-- A withdrawal of a route that is missing changes nothing. -/
def Table.change (table : Table) : RouteChange → Table
  | .announce network attributes source => table.announce network attributes source
  | .withdraw network id => table.withdraw network id

/-- An announcement always changes the table and a withdrawal only if there is the route. -/
def Table.isChangedBy (table : Table) : RouteChange → Bool
  | .announce _ _ _ => true
  | .withdraw network id => table.has network id

/-- The changes that had an effect are counted. -/
def Table.apply (table : Table) : List RouteChange → Table × Nat
  | [] => (table, 0)
  | change :: changes =>
      let (result, count) := (table.change change).apply changes
      (result, if table.isChangedBy change then count + 1 else count)

@[simp] theorem Table.apply_nil (table : Table) : table.apply [] = (table, 0) := rfl

end ContactPlan
