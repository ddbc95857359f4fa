import ContactPlan.Proofs.Agenda.Session
import ContactPlan.Proofs.Link.Handling
import ContactPlan.Server.Basic

namespace ContactPlan

/-- A contact is active when it has opened and not closed since then. -/
def Contact.ActiveIn (history : List Event) (contact : Contact) : Prop :=
  ∃ before after, history = before ++ ⟨contact, .opening⟩ :: after ∧
    ∀ later ∈ after, later.boundary = .closing → ¬later.contact.Same contact

/-- A path is cut when it crosses a contact that has closed. -/
def Event.cuts (own : Asn) (history : List Event) (path : List Asn) : Bool :=
  history.any fun event => event.boundary = .closing && event.contact.crossedBy own path

/-- A contact is active when it has opened. -/
theorem Contact.activeIn_opening (history : List Event) (contact : Contact) :
    contact.ActiveIn (history ++ [⟨contact, .opening⟩]) :=
  ⟨history, [], rfl, by simp⟩

/-- A contact stays active until it closes. -/
theorem Contact.ActiveIn.append {history : List Event} {contact : Contact}
    (active : contact.ActiveIn history) {event : Event}
    (keeps : event.boundary = .closing → ¬event.contact.Same contact) :
    contact.ActiveIn (history ++ [event]) := by
  obtain ⟨before, after, rfl, open'⟩ := active
  refine ⟨before, after ++ [event], List.append_assoc _ _ _, ?_⟩
  intro later member
  rcases List.mem_append.mp member with old | new
  · exact open' later old
  · rw [List.mem_singleton.mp new]
    exact keeps

/-- One more closing cuts the paths that cross its contact. -/
theorem Event.cuts_append (own : Asn) (history : List Event) (event : Event) (path : List Asn) :
    Event.cuts own (history ++ [event]) path =
      (Event.cuts own history path ||
        (event.boundary = .closing && event.contact.crossedBy own path)) := by
  unfold Event.cuts
  rw [List.any_append, List.any_cons, List.any_nil, Bool.or_false]

/-- Nothing is active when nothing is pending. -/
theorem Agenda.Session.no_active {notes : List Note} {agenda : Agenda}
    (session : Agenda.Session notes agenda) (idle : agenda.pending = 0) (contact : Contact) :
    ¬contact.ActiveIn (Note.events notes) := by
  rintro ⟨before, after, split, notClosed⟩
  have noStandings : agenda.standings = [] := by
    rw [Agenda.standings, List.eq_nil_of_length_eq_zero idle]
    rfl
  obtain ⟨finished, rounds⟩ := session.accounts.balanced.rounds contact
  rw [noStandings] at rounds
  have onContact : Note.events (Note.rounds finished) =
      (before.filter fun event => event.contact.Same contact) ++ ⟨contact, .opening⟩ ::
        after.filter fun event => event.contact.Same contact := by
    have filtered := Note.events_about contact notes
    rw [rounds, split, List.filter_append,
      List.filter_cons_of_pos (by simp [Contact.Same.refl])] at filtered
    exact (congrArg Note.events (List.append_nil _)).symm.trans filtered
  obtain ⟨later, member, closes⟩ := Note.closing_after_opening onContact rfl
  obtain ⟨isAfter, same⟩ := List.mem_filter.mp member
  exact notClosed later isAfter closes (of_decide_eq_true same)

namespace Server

/-- Contacts are ingested and resumed from any disk at any time, the clock moves on by any amount,
due timers come in any order, and networks are walked in any order.
The history of a run are the events that were handled. -/
inductive Run (settings : Settings) : List Event → Server → Prop where
  | start : Run settings [] (Server.start settings)
  | resume {history : List Event} {server : Server} (run : Run settings history server)
      (disk : Disk) (now : Instant) : Run settings history (server.resume disk now).2
  | ingest {history : List Event} {server : Server} (run : Run settings history server)
      (disk : Disk) (incoming : ContactSet) (now : Instant) :
      Run settings history (server.ingest disk incoming now).2.1
  | elapse {history : List Event} {server : Server} (run : Run settings history server)
      (milliseconds : Nat) :
      Run settings history { server with agenda := server.agenda.advance milliseconds }
  | wait {history : List Event} {server : Server} {agenda : Agenda}
      (run : Run settings history server) (timer : Timer) (waits : timer ∈ server.agenda.timers)
      (due : timer.deadline ≤ server.agenda.clock)
      (fired : server.agenda.fire timer = (none, agenda)) :
      Run settings history { server with agenda }
  | handle {history : List Event} {server : Server} {agenda : Agenda} {event : Event}
      (run : Run settings history server) (timer : Timer) (waits : timer ∈ server.agenda.timers)
      (due : timer.deadline ≤ server.agenda.clock)
      (fired : server.agenda.fire timer = (some event, agenda)) (networks : List Network)
      (walked : networks.Perm server.table.networks) :
      Run settings (history ++ [event])
        { server with
          agenda
          table := (server.table.apply
            (server.settings.router.changesAlong event server.table networks)).1 }

/-- To resume is to schedule a set or to do nothing. -/
theorem resume_cases (server : Server) (disk : Disk) (now : Instant) :
    (server.resume disk now).2 = server ∨
      ∃ set, (server.resume disk now).2 = server.schedule set now := by
  unfold resume
  split
  · exact .inl rfl
  · exact .inl rfl
  next stored _ => exact .inr ⟨stored.upcoming now, rfl⟩

/-- To ingest is to schedule a set or to do nothing. -/
theorem ingest_cases (server : Server) (disk : Disk) (incoming : ContactSet) (now : Instant) :
    (server.ingest disk incoming now).2.1 = server ∨
      ∃ set, (server.ingest disk incoming now).2.1 = server.schedule set now := by
  unfold ingest
  split
  · exact .inl rfl
  next new _ _ => exact .inr ⟨new, rfl⟩

/-- The agenda of a run goes through a session with the same events. -/
theorem Run.session {settings : Settings} {history : List Event} {server : Server}
    (run : Run settings history server) :
    ∃ notes, Agenda.Session notes server.agenda ∧ Note.events notes = history := by
  have registered {history : List Event} {server : Server} (now : Instant)
      (session : ∃ notes, Agenda.Session notes server.agenda ∧ Note.events notes = history)
      (set : ContactSet) :
      ∃ notes, Agenda.Session notes (server.schedule set now).agenda ∧
        Note.events notes = history := by
    obtain ⟨notes, session, rfl⟩ := session
    refine ⟨_, session.register set now, ?_⟩
    rw [Note.events_append, Note.events_ofReminders, List.append_nil]
  induction run with
  | start => exact ⟨[], .start, rfl⟩
  | resume _ disk now session =>
      rcases resume_cases _ disk now with unchanged | ⟨set, scheduled⟩
      · rw [unchanged]
        exact session
      · rw [scheduled]
        exact registered now session set
  | ingest _ disk incoming now session =>
      rcases ingest_cases _ disk incoming now with unchanged | ⟨set, scheduled⟩
      · rw [unchanged]
        exact session
      · rw [scheduled]
        exact registered now session set
  | elapse _ milliseconds session =>
      obtain ⟨notes, session, rfl⟩ := session
      exact ⟨notes, session.elapse milliseconds, rfl⟩
  | wait _ timer waits due fired session =>
      obtain ⟨notes, session, rfl⟩ := session
      have continued := session.fire timer waits due
      rw [fired] at continued
      exact ⟨_, continued, congrArg Note.events (List.append_nil notes)⟩
  | handle _ timer waits due fired _ _ session =>
      obtain ⟨notes, session, rfl⟩ := session
      have continued := session.fire timer waits due
      rw [fired] at continued
      exact ⟨_, continued, Note.events_append notes _⟩

/-- Routes of contacts cross active contacts, and static routes are missing when they are cut. -/
structure Follows (settings : Settings) (history : List Event) (server : Server) : Prop where
  unchanged : server.settings = settings
  numbered : server.table.Numbered
  live : ∀ route ∈ server.table.routes, route.source = .contact →
    ∃ contact, Contact.ActiveIn history contact ∧ contact.crossedBy settings.own route.path
  configured : (server.table.routes.filter fun route => route.source = .configured) =
    settings.table.routes.filter fun route => !Event.cuts settings.own history route.path

/-- The static routes are the only routes at first. -/
theorem routes_table (settings : Settings) :
    settings.table.Numbered ∧ ∀ route ∈ settings.table.routes, route.source = .configured := by
  have announced (routes : List StaticRoute) {table : Table} (numbered : table.Numbered)
      (configured : ∀ route ∈ table.routes, route.source = .configured) :
      let final := routes.foldl
        (fun table route => table.announce route.network route.attributes .configured) table
      final.Numbered ∧ ∀ route ∈ final.routes, route.source = .configured := by
    induction routes generalizing table with
    | nil => exact ⟨numbered, configured⟩
    | cons first rest inductionHypothesis =>
        apply inductionHypothesis (numbered.announce first.network first.attributes .configured)
        intro route member
        rcases List.mem_append.mp member with old | new
        · exact configured route old
        · rw [List.mem_singleton.mp new]
          rfl
  exact announced settings.routes Table.numbered_empty (by simp [Table.empty])

/-- At the start the table has the configured routes. -/
theorem follows_start (settings : Settings) : Follows settings [] (Server.start settings) := by
  obtain ⟨numbered, configured⟩ := routes_table settings
  refine ⟨rfl, numbered, ?_, ?_⟩
  · intro route member isContact
    have isConfigured := configured route member
    rw [isContact] at isConfigured
    cases isConfigured
  · change settings.table.routes.filter _ = settings.table.routes.filter _
    apply List.filter_congr
    intro route member
    rw [configured route member]
    rfl

/-- An opening adds routes that cross the contact that it makes active. -/
theorem Follows.opening {settings : Settings} {history : List Event} {server : Server}
    (follows : Follows settings history server) (contact : Contact) (networks : List Network)
    (agenda : Agenda) :
    Follows settings (history ++ [⟨contact, .opening⟩])
      { server with
        agenda
        table := (server.table.apply
          (server.settings.router.openingsAlong contact server.table networks)).1 } := by
  obtain ⟨rfl, numbered, live, configured⟩ := follows
  obtain ⟨added, routes, fromContact⟩ :=
    server.settings.router.routes_openingsAlong contact server.table networks
  refine ⟨rfl, numbered.apply _, ?_, ?_⟩
  · intro route member isContact
    rw [routes] at member
    rcases List.mem_append.mp member with old | new
    · obtain ⟨other, active, crosses⟩ := live route old isContact
      exact ⟨other, active.append (by simp), crosses⟩
    · have offered := (fromContact route new).2
      exact ⟨contact, contact.activeIn_opening history, Router.crossedBy_of_mem_offers offered⟩
  · have noneAdded : (added.filter fun route => route.source = .configured) = [] := by
      apply List.filter_eq_nil_iff.mpr
      intro route member
      rw [(fromContact route member).1]
      simp
    change List.filter _ (Table.routes _) = _
    rw [routes, List.filter_append, noneAdded, List.append_nil, configured]
    apply List.filter_congr
    intro route _
    rw [Event.cuts_append]
    simp

/-- A closing removes the routes that crossed its contact while it was active. -/
theorem Follows.closing {settings : Settings} {history : List Event} {server : Server}
    (follows : Follows settings history server) (contact : Contact) {networks : List Network}
    (walked : networks.Perm server.table.networks) (agenda : Agenda) :
    Follows settings (history ++ [⟨contact, .closing⟩])
      { server with
        agenda
        table := (server.table.apply
          (server.settings.router.closingsAlong contact server.table networks)).1 } := by
  obtain ⟨rfl, numbered, live, configured⟩ := follows
  have routes := server.settings.router.routes_closingsAlong contact numbered.distinct
    fun route member => walked.mem_iff.mpr (Table.mem_networks.mpr ⟨route, member, rfl⟩)
  refine ⟨rfl, numbered.apply _, ?_, ?_⟩
  · intro route member isContact
    rw [routes] at member
    obtain ⟨old, kept⟩ := List.mem_filter.mp member
    obtain ⟨other, active, crosses⟩ := live route old isContact
    refine ⟨other, active.append fun _ same => ?_, crosses⟩
    change contact.Same other at same
    change (!contact.crossedBy server.settings.own route.path) = true at kept
    rw [same.crossedBy_eq, crosses] at kept
    cases kept
  · rw [routes, List.filter_filter]
    calc
      server.table.routes.filter (fun route => decide (route.source = .configured) &&
          !contact.crossedBy server.settings.own route.path)
        = (server.table.routes.filter fun route => route.source = .configured).filter
            (fun route => !contact.crossedBy server.settings.own route.path) := by
          rw [List.filter_filter]
          exact List.filter_congr fun route _ => Bool.and_comm _ _
      _ = (server.settings.table.routes.filter fun route =>
            !Event.cuts server.settings.own history route.path).filter
              (fun route => !contact.crossedBy server.settings.own route.path) := by
          rw [configured]
      _ = server.settings.table.routes.filter (fun route =>
            !Event.cuts server.settings.own (history ++ [⟨contact, .closing⟩]) route.path) := by
          rw [List.filter_filter]
          apply List.filter_congr
          intro route _
          rw [Event.cuts_append, Bool.not_or, Bool.and_comm]
          simp

/-- Every run keeps the table in step with the events. -/
theorem Run.follows {settings : Settings} {history : List Event} {server : Server}
    (run : Run settings history server) : Follows settings history server := by
  induction run with
  | start => exact follows_start settings
  | resume _ disk now follows =>
      rcases resume_cases _ disk now with unchanged | ⟨set, scheduled⟩
      · rw [unchanged]
        exact follows
      · rw [scheduled]
        exact ⟨follows.unchanged, follows.numbered, follows.live, follows.configured⟩
  | ingest _ disk incoming now follows =>
      rcases ingest_cases _ disk incoming now with unchanged | ⟨set, scheduled⟩
      · rw [unchanged]
        exact follows
      · rw [scheduled]
        exact ⟨follows.unchanged, follows.numbered, follows.live, follows.configured⟩
  | elapse _ _ follows =>
      exact ⟨follows.unchanged, follows.numbered, follows.live, follows.configured⟩
  | wait _ _ _ _ _ follows =>
      exact ⟨follows.unchanged, follows.numbered, follows.live, follows.configured⟩
  | @handle _ _ agenda event _ _ _ _ _ networks walked follows =>
      obtain ⟨contact, boundary⟩ := event
      cases boundary with
      | opening => exact follows.opening contact networks agenda
      | closing => exact follows.closing contact walked agenda

/-- A call for the next event that waits in a run is a part of the run. -/
theorem Run.awaits {settings : Settings} {history : List Event} {server : Server}
    (run : Run settings history server) {event : Event} {final : Agenda}
    (awaits : Agenda.Awaits server.agenda event final) :
    Run settings (history ++ [event]) ({ server with agenda := final }.handle event).2 := by
  generalize begins : server.agenda = agenda at awaits
  induction awaits generalizing server with
  | elapse milliseconds _ inductionHypothesis =>
      subst begins
      have continued := inductionHypothesis (run.elapse milliseconds) rfl
      exact continued
  | wait timer waits due fired _ inductionHypothesis =>
      subst begins
      have continued := inductionHypothesis (run.wait timer waits due fired) rfl
      exact continued
  | done timer waits due fired =>
      subst begins
      exact run.handle timer waits due fired server.table.networks (List.Perm.refl _)

/-- The next event of a server continues its run. -/
theorem Run.next? {settings : Settings} {history : List Event} {server final : Server}
    (run : Run settings history server) {handled : Handled}
    (found : server.next? = some (handled, final)) :
    Run settings (history ++ [handled.event]) final := by
  obtain ⟨⟨event, agenda⟩, isNext, reached⟩ := Option.map_eq_some_iff.mp found
  cases reached
  exact run.awaits (Agenda.awaits_next? isNext)

/-- In every run each route of a contact crosses an active contact, so that none is left when
nothing is pending.
The static routes that are left are those that no closing has cut. -/
theorem Run.routes_follow_contacts {settings : Settings} {history : List Event} {server : Server}
    (run : Run settings history server) :
    (∀ route ∈ server.table.routes, route.source = .contact →
      ∃ contact, Contact.ActiveIn history contact ∧ contact.crossedBy settings.own route.path) ∧
    (server.agenda.pending = 0 → ∀ route ∈ server.table.routes, route.source ≠ .contact) ∧
    (server.table.routes.filter fun route => route.source = .configured) =
      settings.table.routes.filter fun route => !Event.cuts settings.own history route.path := by
  have follows := run.follows
  refine ⟨follows.live, ?_, follows.configured⟩
  intro idle route member isContact
  obtain ⟨contact, active, _⟩ := follows.live route member isContact
  obtain ⟨notes, session, sameEvents⟩ := run.session
  rw [← sameEvents] at active
  exact session.no_active idle contact active

/-- The router itself has this contact. -/
def uplink : Contact :=
  { start := 1000
    duration := 9000
    first := ⟨1, ⟨11⟩⟩
    second := ⟨3, ⟨13⟩⟩ }

/-- Two other systems meet in the meantime. -/
def crosslink : Contact :=
  { start := 2000
    duration := 3000
    first := ⟨4, ⟨14⟩⟩
    second := ⟨2, ⟨12⟩⟩ }

/-- Both static routes lead to one network. -/
def meshNetwork : Network := ⟨.v4 ⟨0⟩, 8, by decide⟩

def meshRoute (path : List Asn) : StaticRoute :=
  ⟨meshNetwork,
    { nextHop := none
      origin := .interior
      segments := Segment.ofPath path
      localPreference := none
      discriminator := none }⟩

/-- The first static route crosses the shorter contact, and the other one crosses neither. -/
def mesh : Settings :=
  { routerId := .v4 ⟨1⟩
    own := 1
    storePath := "contacts"
    exportPath := none
    neighbors := [⟨⟨13⟩, "radio"⟩, ⟨⟨11⟩, "radio"⟩]
    routes := [meshRoute [2, 4], meshRoute [2, 3, 4]]
    contacts := ContactSet.empty }

def meshHistory : List Event :=
  [⟨uplink, .opening⟩, ⟨crosslink, .opening⟩, ⟨crosslink, .closing⟩]

/-- The shorter contact cuts a static route, and the route of the longer one stays meanwhile. -/
theorem Run.routes_follow_contacts_overlapping :
    ∃ server, Run mesh meshHistory server ∧
      server.table.routes.map (fun route => (route.id, route.source, route.path)) =
        [(2, .configured, [2, 3, 4]), (3, .contact, [3, 4])] ∧
      (∃ contact, Contact.ActiveIn meshHistory contact ∧ contact.crossedBy 1 [3, 4]) ∧
      (server.table.routes.filter fun route => route.source = .configured) =
        mesh.table.routes.filter fun route => !Event.cuts 1 meshHistory route.path := by
  have started : Run mesh [] (Server.start mesh) := .start
  have ingested := started.ingest (Disk.empty ["home"]) (ContactSet.ofList [uplink, crosslink]) 0
  have ready := ingested.elapse 5000
  have first := ready.handle ⟨0, ⟨uplink, .opening⟩, 1000, 0⟩ (by decide) (by decide) rfl
    [meshNetwork] (by decide)
  have second := first.handle ⟨2, ⟨crosslink, .opening⟩, 2000, 0⟩ (by decide) (by decide) rfl
    [meshNetwork] (by decide)
  have third := second.handle ⟨3, ⟨crosslink, .closing⟩, 5000, 0⟩ (by decide) (by decide) rfl
    [meshNetwork] (by decide)
  obtain ⟨live, -, configured⟩ := third.routes_follow_contacts
  have spliced := live ⟨3, meshNetwork,
    (meshRoute [2, 4]).attributes.reroute [.sequence [3, 4]] (some (.v4 ⟨11⟩)), .contact⟩
    (by decide) rfl
  exact ⟨_, third, by decide, spliced, configured⟩

end Server

end ContactPlan
