import ContactPlan.Proofs.Agenda.Session
import ContactPlan.Proofs.Link.Handling
import ContactPlan.Server.Basic

namespace ContactPlan.Server

/-- An event is handled while the networks are walked in the given order. -/
def handleAlong (server : Server) (event : Event) (networks : List Network) : Handled × Server :=
  let (table, changes) :=
    server.table.apply (server.settings.router.changesAlong event server.table networks)
  (⟨event, changes⟩, { server with table })

/-- What a timer hands out is handled. -/
def fireAlong (server : Server) (timer : Timer) (networks : List Network) :
    List Handled × Server :=
  match server.agenda.fire timer with
  | (none, agenda) => ([], { server with agenda })
  | (some event, agenda) =>
      let (handled, server) := { server with agenda }.handleAlong event networks
      ([handled], server)

/-- In the order of the networks a timer that fires is handled as the daemon does it. -/
theorem fireAlong_networks {server : Server} {timer : Timer} {outcome : Option Event}
    {agenda : Agenda} (fired : server.agenda.fire timer = (outcome, agenda)) :
    server.fireAlong timer server.table.networks =
      { server with agenda }.handleAll outcome.toList := by
  unfold fireAlong
  rw [fired]
  cases outcome <;> rfl

/-- Time passes for a server while its clock moves on and due timers fire. -/
inductive Passes : Server → List Handled → Server → Prop where
  | done (server : Server) : Passes server [] server
  | elapse {server final : Server} {handled : List Handled} (milliseconds : Nat)
      (rest : Passes { server with agenda := server.agenda.advance milliseconds } handled final) :
      Passes server handled final
  | fire {server final : Server} {handled : List Handled} (timer : Timer)
      (waits : timer ∈ server.agenda.timers) (due : timer.deadline ≤ server.agenda.clock)
      (rest : Passes (server.fireAlong timer server.table.networks).2 handled final) :
      Passes server ((server.fireAlong timer server.table.networks).1 ++ handled) final

/-- Events do not touch the agenda when they are handled. -/
theorem handleAll_agenda (server : Server) (agenda : Agenda) (events : List Event) :
    ({ server with agenda }.handleAll events).2 = { (server.handleAll events).2 with agenda } := by
  induction events generalizing server with
  | nil => rfl
  | cons event _ inductionHypothesis => exact inductionHypothesis (server.handle event).2

/-- The agenda may change between events, since none of them reads it. -/
theorem handleAll_between (server : Server) (next final : Agenda) (first rest : List Event) :
    let middle := { server with agenda := next }.handleAll first
    let later := { middle.2 with agenda := final }.handleAll rest
    { server with agenda := final }.handleAll (first ++ rest) =
      (middle.1 ++ later.1, later.2) := by
  induction first generalizing server with
  | nil => rfl
  | cons event events inductionHypothesis =>
      exact congrArg (fun result => ((server.handle event).1 :: result.1, result.2))
        (inductionHypothesis (server.handle event).2)

/-- When the clock reaches the first timer, the timer fires. -/
theorem Passes.fireAt {server final : Server} {timer : Timer} {rest : List Timer}
    {outcome : Option Event} {next : Agenda} {handled : List Handled}
    (head : server.agenda.timers = timer :: rest)
    (fired : server.agenda.fireAt timer = (outcome, next))
    (later : Passes ({ server with agenda := next }.handleAll outcome.toList).2 handled final) :
    server.Passes (({ server with agenda := next }.handleAll outcome.toList).1 ++ handled)
      final := by
  let ready : Server :=
    { server with agenda := server.agenda.advance (timer.deadline - server.agenda.clock) }
  have isDue : timer ∈ ready.agenda.timers ∧ timer.deadline ≤ ready.agenda.clock :=
    Agenda.due_advance head
  rw [Agenda.fireAt, Agenda.reach_eq_advance] at fired
  have along : ready.fireAlong timer ready.table.networks =
      { server with agenda := next }.handleAll outcome.toList := fireAlong_networks fired
  rw [← along] at later ⊢
  have fires : ready.Passes ((ready.fireAlong timer ready.table.networks).1 ++ handled) final :=
    .fire timer isDue.1 isDue.2 later
  exact .elapse _ fires

/-- Timers fire in their order until the next one is not due by the limit. -/
theorem passes_runTo (server : Server) (limit : Nat) :
    let run := server.agenda.runTo limit
    let handled := { server with agenda := run.2 }.handleAll (run.1.map Occurrence.event)
    server.Passes handled.1 handled.2 := by
  have waited {server : Server} {agenda : Agenda} (begins : server.agenda = agenda) :
      server.Passes [] { server with agenda := agenda.reach limit } := by
    subst begins
    rw [Agenda.reach_eq_advance]
    exact .elapse _ (.done _)
  generalize begins : server.agenda = agenda
  induction agenda using Agenda.runTo.induct limit generalizing server with
  | case1 agenda none =>
      rw [Agenda.runTo_nil none]
      exact waited begins
  | case2 agenda timer rest head due occurrences final isRest inductionHypothesis =>
      subst begins
      rw [isRest] at inductionHypothesis
      rw [Agenda.runTo_cons head, if_pos due, isRest]
      cases fired : server.agenda.fireAt timer with
      | mk outcome next =>
          rw [fired] at inductionHypothesis
          have sameAgenda : ({ server with agenda := next }.handleAll outcome.toList).2.agenda =
              next := congrArg agenda (server.handleAll_agenda next outcome.toList)
          have later := inductionHypothesis _ sameAgenda
          have sameEvents : ((outcome.map (Occurrence.mk (max server.agenda.clock
              timer.deadline))).toList ++ occurrences).map Occurrence.event =
              outcome.toList ++ occurrences.map Occurrence.event := by
            cases outcome <;> rfl
          simp only [sameEvents, server.handleAll_between next final]
          exact later.fireAt head fired
  | case3 agenda timer rest head notDue =>
      rw [Agenda.runTo_cons head, if_neg notDue]
      exact waited begins

/-- Time that elapses passes in single steps. -/
theorem passes_elapse (server : Server) (milliseconds : Nat) :
    server.Passes (server.elapse milliseconds).1 (server.elapse milliseconds).2 :=
  server.passes_runTo (server.agenda.clock + milliseconds)

end ContactPlan.Server
