import ContactPlan.Failure
import ContactPlan.Proofs.Asn.Grammar
import ContactPlan.Proofs.Contact.Set
import ContactPlan.Server.Basic
import Mathlib.Data.List.Forall2

namespace ContactPlan

section Occurrence

variable {Item : Type}

/-- The items before the first one with a property do not have it. -/
def FirstWith (holds : Item → Prop) (items : List Item) (item : Item) : Prop :=
  ∃ before after, items = before ++ item :: after ∧ holds item ∧ ∀ earlier ∈ before, ¬holds earlier

/-- The items behind the last one with a property do not have it. -/
def LastWith (holds : Item → Prop) (items : List Item) (item : Item) : Prop :=
  ∃ before after, items = before ++ item :: after ∧ holds item ∧ ∀ later ∈ after, ¬holds later

variable {holds : Item → Prop} {items : List Item} {item : Item}

/-- The first item of the reversed list is the last one. -/
theorem firstWith_reverse : FirstWith holds items.reverse item ↔ LastWith holds items item := by
  constructor
  · rintro ⟨after, before, reversed, isItem, others⟩
    refine ⟨before.reverse, after.reverse, ?_, isItem, ?_⟩
    · rw [← List.reverse_inj, reversed]
      simp
    · exact fun later member => others later (List.mem_reverse.mp member)
  · rintro ⟨before, after, rfl, isItem, others⟩
    refine ⟨after.reverse, before.reverse, by simp, isItem, ?_⟩
    exact fun earlier member => others earlier (List.mem_reverse.mp member)

variable [DecidablePred holds]

/-- The first item is the one that a search finds. -/
theorem firstWith_iff :
    FirstWith holds items item ↔ items.find? (fun item => holds item) = some item := by
  rw [List.find?_eq_some_iff_append]
  simp only [decide_eq_true_iff, Bool.not_eq_true', decide_eq_false_iff_not]
  constructor
  · rintro ⟨before, after, rfl, isItem, others⟩
    exact ⟨isItem, before, after, rfl, others⟩
  · rintro ⟨isItem, before, after, rfl, others⟩
    exact ⟨before, after, rfl, isItem, others⟩

/-- The last item is the one that a search from the end finds. -/
theorem lastWith_iff :
    LastWith holds items item ↔ items.reverse.find? (fun item => holds item) = some item := by
  rw [← firstWith_reverse, firstWith_iff]

end Occurrence

/-- Of several declarations of one contact the last stays. -/
theorem ContactSet.mem_ofList_iff {contact : Contact} {contacts : List Contact} :
    contact ∈ (ContactSet.ofList contacts).members ↔
      LastWith (fun declared => declared.Same contact) contacts contact := by
  rw [ContactSet.mem_members_iff, ContactSet.declaration?_ofList, lastWith_iff]
  rfl

/-- A gateway is resolved by the last neighbor that is declared for it. -/
theorem Neighbor.resolve?_eq_some_iff {gateway : Ipv4} {neighbor : Neighbor}
    {neighbors : List Neighbor} :
    Neighbor.resolve? neighbors gateway = some neighbor ↔
      LastWith (fun listed => listed.address = gateway) neighbors neighbor :=
  lastWith_iff.symm

namespace Settings

/-- The first refused text decides for all. -/
def refusal (texts : List String) : Option Fault :=
  (texts.find? fun text => ¬Asn.Accepted text).map .wrongAsn

/-- The texts at the front are refused before those at the back. -/
theorem refusal_append (front back : List String) :
    refusal (front ++ back) = (refusal front).or (refusal back) := by
  rw [refusal, List.find?_append, Option.map_or, refusal, refusal]

/-- Nothing is refused when all texts are accepted. -/
theorem refusal_eq_none_iff {texts : List String} :
    refusal texts = none ↔ ∀ text ∈ texts, Asn.Accepted text := by
  simp [refusal]

/-- The first text that is not accepted is reported. -/
theorem refusal_eq_some_iff {texts : List String} {fault : Fault} :
    refusal texts = some fault ↔
      ∃ text, FirstWith (fun text => ¬Asn.Accepted text) texts text ∧ fault = .wrongAsn text := by
  rw [refusal, Option.map_eq_some_iff]
  exact exists_congr fun text => and_congr firstWith_iff.symm eq_comm

/-- A path is read as far as its first refused text. -/
theorem readPath_eq (texts : List String) :
    readPath texts = (refusal texts).elim (.ok (texts.filterMap Asn.ofText?)) .error := by
  induction texts with
  | nil => rfl
  | cons first rest inductionHypothesis =>
      rw [readPath, inductionHypothesis, ← List.singleton_append, refusal_append]
      cases isRead : Asn.ofText? first with
      | none =>
          have refused : refusal [first] = some (.wrongAsn first) := by
            simp [refusal, Asn.accepted_iff, isRead]
          rw [refused]
          rfl
      | some asn =>
          have accepted : refusal [first] = none := by
            simp [refusal, Asn.accepted_iff, isRead]
          rw [accepted, Option.none_or, List.filterMap_append]
          cases refusal rest with
          | some fault => rfl
          | none => simp [isRead, Except.map]

/-- Nothing is read behind the first refused text. -/
example : readPath ["10", "0.30", "AS20", "1.2.3"] = .error (.wrongAsn "AS20") := rfl

/-- A static route has the path that can be read from its draft. -/
def RouteDraft.route (draft : RouteDraft) : StaticRoute :=
  ⟨draft.network, draft.attributes (draft.path.filterMap Asn.ofText?)⟩

/-- The paths are read one after the other. -/
theorem readRoutes_eq (drafts : List RouteDraft) :
    readRoutes drafts =
      (refusal (drafts.flatMap RouteDraft.path)).elim (.ok (drafts.map RouteDraft.route))
        .error := by
  induction drafts with
  | nil => rfl
  | cons first rest inductionHypothesis =>
      rw [readRoutes, readPath_eq, inductionHypothesis, List.flatMap_cons, refusal_append]
      cases refusal first.path with
      | some fault => rfl
      | none => cases refusal (rest.flatMap RouteDraft.path) <;> rfl

/-- The texts of all paths stand in the order of the document. -/
def Draft.pathTexts (draft : Draft) : List String := draft.routes.flatMap RouteDraft.path

/-- The settings of a draft whose paths are accepted. -/
def Draft.settings (draft : Draft) : Settings :=
  { routerId := draft.routerId
    own := draft.own
    storePath := draft.storePath
    exportPath := draft.exportPath
    neighbors := draft.neighbors
    routes := draft.routes.map RouteDraft.route
    contacts := ContactSet.ofList draft.contacts }

/-- A draft gives its settings unless one of its texts is refused. -/
theorem ofDraft_eq (draft : Draft) :
    ofDraft draft = (refusal draft.pathTexts).elim (.ok draft.settings) .error := by
  rw [ofDraft, readRoutes_eq]
  change Except.map _ ((refusal draft.pathTexts).elim _ _) = _
  cases refusal draft.pathTexts <;> rfl

/-- A draft is accepted when all of its texts are. -/
theorem ofDraft_eq_ok_iff {draft : Draft} {settings : Settings} :
    ofDraft draft = .ok settings ↔
      (∀ text ∈ draft.pathTexts, Asn.Accepted text) ∧ settings = draft.settings := by
  rw [ofDraft_eq, ← refusal_eq_none_iff]
  cases refusal draft.pathTexts <;> simp [eq_comm]

/-- A draft is refused because of its first text that is not accepted. -/
theorem ofDraft_eq_error_iff {draft : Draft} {fault : Fault} :
    ofDraft draft = .error fault ↔ ∃ text,
      FirstWith (fun text => ¬Asn.Accepted text) draft.pathTexts text ∧ fault = .wrongAsn text := by
  rw [ofDraft_eq, ← refusal_eq_some_iff]
  cases refusal draft.pathTexts <;> simp

end Settings

/-- A static route is announced with a number. -/
def StaticRoute.announced (route : StaticRoute) (id : Nat) : Route :=
  ⟨id, route.network, route.attributes, .configured⟩

namespace Settings

/-- Static routes take the next numbers in their order. -/
theorem foldl_announce (routes : List StaticRoute) (table : Table) :
    routes.foldl (fun table route => table.announce route.network route.attributes .configured)
        table =
      ⟨table.routes ++ (routes.zipIdx table.nextId).map fun (route, id) => route.announced id,
        table.nextId + routes.length⟩ := by
  induction routes generalizing table with
  | nil => simp
  | cons first rest inductionHypothesis =>
      rw [List.foldl_cons, inductionHypothesis]
      simp only [Table.announce, List.zipIdx_cons, List.map_cons, List.append_assoc,
        List.length_cons, Table.mk.injEq]
      exact ⟨rfl, by omega⟩

/-- The routes are announced in the order in which they are configured. -/
theorem table_eq (settings : Settings) :
    settings.table =
      ⟨(settings.routes.zipIdx 1).map fun (route, id) => route.announced id,
        1 + settings.routes.length⟩ :=
  foldl_announce settings.routes Table.empty

/-- The routes to a network are its static routes, and their numbers tell their places. -/
theorem routesTo_table (settings : Settings) (network : Network) :
    settings.table.routesTo network =
      ((settings.routes.zipIdx 1).filter fun (route, _) => route.network = network).map
        fun (route, id) => route.announced id := by
  rw [table_eq, Table.routesTo, List.filter_map]
  rfl

/-- The attributes of a route are those of its draft with the path that the texts name. -/
structure RouteDraft.Yields (draft : RouteDraft) (route : StaticRoute) : Prop where
  network : route.network = draft.network
  path : draft.path.map Asn.parse = route.attributes.path.map .ok
  attributes : route.attributes = draft.attributes route.attributes.path

/-- A draft with accepted texts yields its route. -/
theorem RouteDraft.yields_route {draft : RouteDraft}
    (accepted : ∀ text ∈ draft.path, Asn.Accepted text) : draft.Yields draft.route := by
  have path : draft.route.attributes.path = draft.path.filterMap Asn.ofText? :=
    Segment.flatten_ofPath _
  constructor
  · rfl
  · rw [path]
    exact Asn.map_parse_of_accepted accepted
  · rw [path]
    rfl

/-- What settings and the server that is started with them have from the draft. -/
structure Draft.Yields (draft : Draft) (settings : Settings) : Prop where
  routes : List.Forall₂ RouteDraft.Yields draft.routes settings.routes
  contacts : ∀ contact, contact ∈ settings.contacts.members ↔
    LastWith (fun declared => declared.Same contact) draft.contacts contact
  neighbors : ∀ gateway neighbor,
    settings.router.resolver.resolve? gateway = some neighbor ↔
      LastWith (fun listed => listed.address = gateway) draft.neighbors neighbor
  table : ∀ network, (Server.start settings).table.routesTo network =
    ((settings.routes.zipIdx 1).filter fun (route, _) => route.network = network).map
      fun (route, id) => route.announced id

/-- A draft with accepted texts yields its settings. -/
theorem Draft.yields_settings {draft : Draft}
    (accepted : ∀ text ∈ draft.pathTexts, Asn.Accepted text) : draft.Yields draft.settings := by
  constructor
  · rw [settings, List.forall₂_map_right_iff, List.forall₂_same]
    intro route member
    exact RouteDraft.yields_route fun text inPath =>
      accepted text (List.mem_flatMap.mpr ⟨route, member, inPath⟩)
  · exact fun contact => ContactSet.mem_ofList_iff
  · exact fun gateway neighbor => Neighbor.resolve?_eq_some_iff
  · exact fun network => routesTo_table _ network

/-- The message quotes the text that names no system. -/
theorem message_wrongAsn (text : String) :
    (Failure.settings (.wrongAsn text)).message =
      "config error: Invalid ASN: '" ++ text ++ "'" := by
  have front : "config error: Invalid ASN: '" = "config error: " ++ "Invalid ASN: '" := rfl
  change "config error: " ++ ("Invalid ASN: '" ++ text ++ "'") = _
  rw [front, String.append_assoc, String.append_assoc, String.append_assoc]

/-- A draft becomes settings when every text of its paths is accepted. Otherwise the first text that
is refused is reported. Settings list the routes of their draft in its order, the last declaration
of every contact and the last neighbor for every address, and a server starts with the routes
numbered by their places. -/
theorem ofDraft_all_or_nothing (draft : Draft) :
    ((∃ settings, ofDraft draft = .ok settings) ↔
      ∀ route ∈ draft.routes, ∀ text ∈ route.path, ∃ asn, Asn.parse text = .ok asn) ∧
    (∀ fault, ofDraft draft = .error fault ↔ ∃ text,
      FirstWith (fun text => ¬∃ asn, Asn.parse text = .ok asn)
        (draft.routes.flatMap RouteDraft.path) text ∧
      fault = .wrongAsn text ∧
      (Failure.settings fault).message = "config error: Invalid ASN: '" ++ text ++ "'") ∧
    ∀ settings, ofDraft draft = .ok settings → draft.Yields settings := by
  refine ⟨?_, fun fault => ?_, ?_⟩
  · simp only [ofDraft_eq_ok_iff, Draft.pathTexts, List.mem_flatMap, exists_and_left,
      exists_eq, and_true]
    exact ⟨fun accepted route member text inPath => accepted text ⟨route, member, inPath⟩,
      fun accepted text ⟨route, member, inPath⟩ => accepted route member text inPath⟩
  · rw [ofDraft_eq_error_iff]
    apply exists_congr
    intro text
    apply and_congr_right
    intro _
    constructor
    · rintro rfl
      exact ⟨rfl, message_wrongAsn text⟩
    · exact And.left
  · intro settings isRead
    obtain ⟨accepted, rfl⟩ := ofDraft_eq_ok_iff.mp isRead
    exact Draft.yields_settings accepted

def repeatedContact : Contact :=
  ⟨1000, 500, ⟨10, Ipv4.ofOctets 1 1 1 11⟩, ⟨20, Ipv4.ofOctets 2 2 2 21⟩⟩

def repeatedNetwork : Network := ⟨.v4 (Ipv4.ofOctets 10 10 0 0), 16, by decide⟩

/-- Two routes lead to one network, and a neighbor and a contact are declared twice. -/
def repeatingDraft : Draft :=
  let other : Network := ⟨.v4 (Ipv4.ofOctets 10 20 0 0), 16, by decide⟩
  let nextHop : Address := .v4 (Ipv4.ofOctets 192 168 0 1)
  { routerId := .v4 (Ipv4.ofOctets 1 1 1 1)
    own := 100
    storePath := Store.defaultPath
    exportPath := none
    neighbors := [⟨Ipv4.ofOctets 1 1 1 11, "sat0"⟩, ⟨Ipv4.ofOctets 1 1 1 12, "sat1"⟩,
      ⟨Ipv4.ofOctets 1 1 1 11, "sat2"⟩]
    routes := [⟨repeatedNetwork, nextHop, ["10", "0.30"], some "IGP", none, some 10⟩,
      ⟨other, nextHop, [], none, none, none⟩,
      ⟨repeatedNetwork, nextHop, ["65000.100"], none, none, none⟩]
    contacts := [repeatedContact, repeatedContact.flip] }

/-- Of what is declared again the last counts, and the routes are numbered as they come. -/
theorem ofDraft_all_or_nothing_repeating :
    ∃ settings, ofDraft repeatingDraft = .ok settings ∧
      settings.router.resolver.resolve? (Ipv4.ofOctets 1 1 1 11) =
        some ⟨Ipv4.ofOctets 1 1 1 11, "sat2"⟩ ∧
      repeatedContact.flip ∈ settings.contacts.members ∧
      repeatedContact ∉ settings.contacts.members ∧
      ((Server.start settings).table.routesTo repeatedNetwork).map
        (fun route => (route.id, route.path)) = [(1, [10, 30]), (3, [4259840100])] := by
  obtain ⟨-, -, yields⟩ := ofDraft_all_or_nothing repeatingDraft
  obtain ⟨routes, contacts, neighbors, table⟩ := yields _ rfl
  refine ⟨_, rfl, (neighbors _ _).mpr ?_, (contacts _).mpr ?_, ?_, ?_⟩
  · exact ⟨repeatingDraft.neighbors.take 2, [], rfl, rfl, List.forall_mem_nil _⟩
  · exact ⟨[repeatedContact], [], rfl, by decide, List.forall_mem_nil _⟩
  · rw [contacts, lastWith_iff]
    decide
  · rw [table]
    rfl

end Settings

end ContactPlan
