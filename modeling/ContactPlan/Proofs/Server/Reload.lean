import ContactPlan.Proofs.Server.Service
import ContactPlan.Server.Daemon

namespace ContactPlan

namespace Store

/-- A missing store is empty, and every other fault of its file is a fault of the store. -/
theorem loadOrEmpty_eq_error_iff {disk : Disk} {path : String} {fault : Disk.Fault} :
    loadOrEmpty disk path = .error fault ↔
      fault ≠ .notFound ∧ disk.read path = .error fault := by
  unfold loadOrEmpty load
  cases disk.read path with
  | ok bytes => simp [Except.map]
  | error found => cases found <;> cases fault <;> simp [Except.map]

/-- An ingestion fails when the store cannot be read and when it cannot be written. -/
theorem ingest_fails_iff {disk : Disk} {path : String} {incoming : ContactSet} :
    (∃ fault, ingest disk path incoming = .error fault) ↔
      (∃ fault, fault ≠ .notFound ∧ disk.read path = .error fault) ∨ ¬disk.Writable path := by
  simp only [← loadOrEmpty_eq_error_iff]
  cases loads : loadOrEmpty disk path with
  | error fault => simp [ingest, loads]
  | ok stored =>
      by_cases writable : disk.Writable path
      · obtain ⟨next, ingested, -⟩ := ingest_keeps loads writable incoming
        simp [ingested, writable]
      · cases written : disk.write path (image (stored.union incoming.valid)) with
        | ok next => exact absurd (Disk.writable_of_write written) writable
        | error fault => simp [ingest, save, loads, written, writable, Except.map]

end Store

namespace Server

/-- An ingestion fails when the store of the server cannot be read or written. -/
theorem ingest_fails_iff {server : Server} {disk : Disk} {incoming : ContactSet} {now : Instant} :
    (∃ failure, (server.ingest disk incoming now).1 = .error failure) ↔
      (∃ fault, fault ≠ .notFound ∧ disk.read server.settings.storePath = .error fault) ∨
        ¬disk.Writable server.settings.storePath := by
  rw [← Store.ingest_fails_iff]
  unfold ingest
  cases Store.ingest disk server.settings.storePath incoming with
  | error fault => simp
  | ok result => simp

/-- An ingestion that fails leaves the server and the disk as they were. -/
theorem ingest_of_error {server : Server} {disk : Disk} {incoming : ContactSet} {now : Instant}
    {failure : Failure} (failed : (server.ingest disk incoming now).1 = .error failure) :
    (server.ingest disk incoming now).2 = (server, disk) := by
  unfold ingest at failed ⊢
  cases ingested : Store.ingest disk server.settings.storePath incoming with
  | error fault => rfl
  | ok result =>
      rw [ingested] at failed
      cases failed

end Server

/-- These reports say that a reload has failed. -/
def Report.isFailedReload : Report → Bool
  | .reloadFailed _ _ => true
  | .ingestFailed _ _ => true
  | _ => false

namespace Daemon

/-- The clock of a daemon moves on, a timer fires, files change, or the settings are read again.
When a timer fires, the networks are walked in the given order. -/
inductive Turn where
  | elapse (milliseconds : Nat)
  | fire (timer : Timer) (networks : List Network)
  | replace (disk : Disk)
  | reload (now : Instant)

/-- One turn of a daemon, with what it reports. -/
def take (daemon : Daemon) : Turn → List Report × Daemon
  | .elapse milliseconds =>
      let agenda := daemon.server.agenda.advance milliseconds
      ([], { daemon with server := { daemon.server with agenda } })
  | .fire timer networks =>
      let (handled, server) := daemon.server.fireAlong timer networks
      (handled.map .handled, { daemon with server })
  | .replace disk => daemon.obey (.replace disk)
  | .reload now => daemon.obey (.reload now)

/-- A timer fires only when it is due, and then all networks of the table are walked. -/
def Permits (daemon : Daemon) : Turn → Prop
  | .fire timer networks =>
      timer ∈ daemon.server.agenda.timers ∧ timer.deadline ≤ daemon.server.agenda.clock ∧
        networks.Perm daemon.server.table.networks
  | _ => True

/-- A stage is what a turn has reported and what it has made of the daemon. -/
structure Stage where
  turn : Turn
  reports : List Report
  daemon : Daemon

def Stage.isFailedReload (stage : Stage) : Bool := stage.reports.any Report.isFailedReload

/-- The turns are taken one after the other. -/
def stages (daemon : Daemon) : List Turn → List Stage
  | [] => []
  | turn :: rest =>
      let (reports, next) := daemon.take turn
      ⟨turn, reports, next⟩ :: next.stages rest

theorem stages_cons (daemon : Daemon) (turn : Turn) (rest : List Turn) :
    daemon.stages (turn :: rest) =
      ⟨turn, (daemon.take turn).1, (daemon.take turn).2⟩ :: (daemon.take turn).2.stages rest := rfl

def takeAll (daemon : Daemon) : List Turn → Daemon
  | [] => daemon
  | turn :: rest => (daemon.take turn).2.takeAll rest

/-- Every turn is permitted where it is taken. -/
def PermitsAll (daemon : Daemon) : List Turn → Prop
  | [] => True
  | turn :: rest => daemon.Permits turn ∧ (daemon.take turn).2.PermitsAll rest

/-- A reload fails when the settings cannot be loaded or their contacts cannot be ingested. -/
def FailsToReload (daemon : Daemon) (now : Instant) : Prop :=
  (∃ failure, Settings.load daemon.disk daemon.path = .error failure) ∨
    ∃ settings failure, Settings.load daemon.disk daemon.path = .ok settings ∧
      (daemon.server.ingest daemon.disk settings.contacts now).1 = .error failure

/-- Reloads that fail are inserted between the turns of a daemon. -/
inductive Interrupted : Daemon → List Turn → List Turn → Prop where
  | done (daemon : Daemon) : Interrupted daemon [] []
  | turn {daemon : Daemon} {turns more : List Turn} (turn : Turn)
      (rest : Interrupted (daemon.take turn).2 turns more) :
      Interrupted daemon (turn :: turns) (turn :: more)
  | reload {daemon : Daemon} {turns more : List Turn} {now : Instant}
      (fails : daemon.FailsToReload now) (rest : Interrupted daemon turns more) :
      Interrupted daemon turns (.reload now :: more)

/-- A reload that fails is reported and changes nothing, and no other reload is reported so. -/
theorem reload_cases (daemon : Daemon) (now : Instant) :
    (daemon.FailsToReload now ∧ (daemon.reload now).1.isFailedReload = true ∧
        (daemon.reload now).2 = daemon) ∨
      (¬daemon.FailsToReload now ∧ (daemon.reload now).1.isFailedReload = false) := by
  unfold FailsToReload reload
  cases Settings.load daemon.disk daemon.path with
  | error failure => simp [Report.isFailedReload]
  | ok settings =>
      cases outcome : (daemon.server.ingest daemon.disk settings.contacts now).1 with
      | error failure =>
          have unchanged := Server.ingest_of_error outcome
          simp [Report.isFailedReload, Report.ingestion, outcome, unchanged]
      | ok new => simp [Report.isFailedReload, Report.ingestion, outcome]

/-- The reloads that fail are the only turns that are reported as such. -/
theorem isFailedReload_take {daemon : Daemon} {turn : Turn} :
    (daemon.take turn).1.any Report.isFailedReload ↔
      ∃ now, turn = .reload now ∧ daemon.FailsToReload now := by
  cases turn with
  | elapse milliseconds => simp [take]
  | fire timer networks => simp [take, Report.isFailedReload]
  | replace disk => simp [take, obey]
  | reload now =>
      have reported : (daemon.take (.reload now)).1 = [(daemon.reload now).1] := rfl
      rw [reported]
      rcases daemon.reload_cases now with ⟨fails, isFailed, -⟩ | ⟨succeeds, notFailed⟩
      · simp [fails, isFailed]
      · simp [succeeds, notFailed]

/-- A reload that fails changes nothing. -/
theorem take_reload_of_fails {daemon : Daemon} {now : Instant} (fails : daemon.FailsToReload now) :
    (daemon.take (.reload now)).2 = daemon := by
  rcases daemon.reload_cases now with ⟨-, -, unchanged⟩ | ⟨succeeds, -⟩
  · exact unchanged
  · exact absurd fails succeeds

/-- Reloads that fail may come in between at any time. All other turns are permitted as before, and
they report the same and leave the daemon in the same state. -/
theorem Interrupted.stages_eq {daemon : Daemon} {turns more : List Turn}
    (interrupted : daemon.Interrupted turns more) :
    (daemon.PermitsAll more ↔ daemon.PermitsAll turns) ∧
      daemon.takeAll more = daemon.takeAll turns ∧
      (daemon.stages more).filter (fun stage => !stage.isFailedReload) =
        (daemon.stages turns).filter fun stage => !stage.isFailedReload := by
  induction interrupted with
  | done daemon => exact ⟨Iff.rfl, rfl, rfl⟩
  | @turn daemon turns more turn rest inductionHypothesis =>
      obtain ⟨permits, final, stages⟩ := inductionHypothesis
      refine ⟨and_congr_right' permits, final, ?_⟩
      rw [stages_cons, stages_cons, List.filter_cons, List.filter_cons, stages]
  | @reload daemon turns more now fails rest inductionHypothesis =>
      obtain ⟨permits, final, stages⟩ := inductionHypothesis
      have unchanged := take_reload_of_fails fails
      have isFailed : (daemon.take (.reload now)).1.any Report.isFailedReload :=
        isFailedReload_take.mpr ⟨now, rfl, fails⟩
      refine ⟨?_, ?_, ?_⟩
      · change True ∧ PermitsAll _ more ↔ _
        rw [true_and, unchanged, permits]
      · change takeAll _ more = _
        rw [unchanged, final]
      · rw [stages_cons, unchanged,
          List.filter_cons_of_neg (by simpa [Stage.isFailedReload] using isFailed), stages]

/-- By turns that are permitted, a daemon comes to a state and reports something on its way. -/
def Reaches (daemon : Daemon) (reports : List Report) (final : Daemon) : Prop :=
  ∃ turns, daemon.PermitsAll turns ∧ (daemon.stages turns).flatMap Stage.reports = reports ∧
    daemon.takeAll turns = final

/-- Without turns nothing changes. -/
theorem reaches_self (daemon : Daemon) : daemon.Reaches [] daemon := ⟨[], trivial, rfl, rfl⟩

/-- A turn comes before all others. -/
theorem Reaches.after {daemon final : Daemon} {reports : List Report} (turn : Turn)
    (permits : daemon.Permits turn) (reaches : (daemon.take turn).2.Reaches reports final) :
    daemon.Reaches ((daemon.take turn).1 ++ reports) final := by
  obtain ⟨turns, permitsAll, rfl, rfl⟩ := reaches
  exact ⟨turn :: turns, ⟨permits, permitsAll⟩, rfl, rfl⟩

/-- Turns may follow other turns. -/
theorem Reaches.trans {daemon middle final : Daemon} {first second : List Report}
    (reaches : daemon.Reaches first middle) (continued : middle.Reaches second final) :
    daemon.Reaches (first ++ second) final := by
  obtain ⟨turns, permitsAll, rfl, rfl⟩ := reaches
  induction turns generalizing daemon with
  | nil => exact continued
  | cons turn rest inductionHypothesis =>
      obtain ⟨permits, permitsRest⟩ := permitsAll
      rw [stages_cons, List.flatMap_cons, List.append_assoc]
      exact (inductionHypothesis permitsRest continued).after turn permits

/-- The time that passes for the server passes in turns of the daemon. -/
theorem reaches_of_passes {daemon : Daemon} {server next : Server} {handled : List Handled}
    (begins : daemon.server = server) (passes : server.Passes handled next) :
    daemon.Reaches (handled.map .handled) { daemon with server := next } := by
  induction passes generalizing daemon with
  | done =>
      subst begins
      exact reaches_self daemon
  | elapse milliseconds _ inductionHypothesis =>
      subst begins
      exact Reaches.after (.elapse milliseconds) trivial (inductionHypothesis rfl)
  | fire timer waits due _ inductionHypothesis =>
      subst begins
      rw [List.map_append]
      exact Reaches.after (.fire timer daemon.server.table.networks) ⟨waits, due, .refl _⟩
        (inductionHypothesis rfl)

/-- A signal is obeyed in turns that are permitted. -/
theorem reaches_obey (daemon : Daemon) (signal : Signal) :
    daemon.Reaches (daemon.obey signal).1 (daemon.obey signal).2 := by
  cases signal with
  | elapse milliseconds => exact reaches_of_passes rfl (daemon.server.passes_elapse milliseconds)
  | replace disk => exact (reaches_self _).after (.replace disk) trivial
  | reload now => exact (reaches_self _).after (.reload now) trivial

/-- Whatever a daemon obeys, it takes turns that are permitted. -/
theorem reaches_obeyAll (daemon : Daemon) (signals : List Signal) :
    daemon.Reaches (daemon.obeyAll signals).1 (daemon.obeyAll signals).2 := by
  induction signals generalizing daemon with
  | nil => exact daemon.reaches_self
  | cons signal rest inductionHypothesis =>
      exact (daemon.reaches_obey signal).trans (inductionHypothesis (daemon.obey signal).2)

/-- An ingestion fails when the store cannot be read or written, and then it leaves the server and
the disk as they were. Reloads that fail in this way, or because of their settings, may come in
between the turns of a daemon at any time. All other turns are permitted as before, report the same
events and changes, and leave the same routes, contacts and timers. -/
theorem failed_ingestions_leave_no_trace :
    (∀ (server : Server) (disk : Disk) (incoming : ContactSet) (now : Instant),
      ((∃ failure, (server.ingest disk incoming now).1 = .error failure) ↔
        (∃ fault, fault ≠ .notFound ∧ disk.read server.settings.storePath = .error fault) ∨
          ¬disk.Writable server.settings.storePath) ∧
      ∀ failure, (server.ingest disk incoming now).1 = .error failure →
        (server.ingest disk incoming now).2 = (server, disk)) ∧
    ∀ (daemon : Daemon) (turns more : List Turn), daemon.Interrupted turns more →
      (daemon.PermitsAll more ↔ daemon.PermitsAll turns) ∧
        daemon.takeAll more = daemon.takeAll turns ∧
        (daemon.stages more).filter (fun stage => !stage.isFailedReload) =
          (daemon.stages turns).filter fun stage => !stage.isFailedReload :=
  ⟨fun _ _ _ _ => ⟨Server.ingest_fails_iff, fun _ => Server.ingest_of_error⟩,
    fun _ _ _ interrupted => interrupted.stages_eq⟩

/-- This daemon has one contact ahead, and there are no settings where it looks for them. -/
def lonely : Daemon :=
  ⟨"settings", (Server.start Server.relay).schedule (ContactSet.ofList [Server.passing]) 6000,
    Server.relayDisk⟩

/-- The store of this disk is a directory. -/
def blockedDisk : Disk := ⟨["home"], [(["home", "contacts"], .directory)]⟩

/-- Reloads fail before the contact opens, when it is due and at the end. The contact opens and
closes nevertheless, and nothing is pending in the end. -/
theorem failed_ingestions_leave_no_trace_lonely :
    let opening : Turn := .fire ⟨0, ⟨Server.passing, .opening⟩, 1000, 0⟩ []
    let closing : Turn := .fire ⟨1, ⟨Server.passing, .closing⟩, 2000, 0⟩ []
    let turns : List Turn := [.elapse 1500, opening, .elapse 1000, closing]
    let more : List Turn :=
      [.reload 6000, .elapse 1500, .reload 7500, opening, .elapse 1000, closing, .reload 8500]
    lonely.Interrupted turns more ∧ lonely.PermitsAll turns ∧ lonely.PermitsAll more ∧
      (lonely.takeAll more).server.agenda.pending = 0 ∧
      (lonely.stages more).filter (fun stage => !stage.isFailedReload) =
        (lonely.stages turns).filter (fun stage => !stage.isFailedReload) ∧
      ¬blockedDisk.Writable Server.relay.storePath ∧
      (lonely.server.ingest blockedDisk Server.relay.contacts 6000).2 =
        (lonely.server, blockedDisk) := by
  intro opening closing turns more
  obtain ⟨ingestions, interruptions⟩ := failed_ingestions_leave_no_trace
  have fails {daemon : Daemon} (now : Instant) (samePath : daemon.path = "settings")
      (sameDisk : daemon.disk = Server.relayDisk) : daemon.FailsToReload now := by
    apply Or.inl
    rw [samePath, sameDisk]
    exact ⟨.storage .notFound, rfl⟩
  have interrupted : lonely.Interrupted turns more :=
    .reload (fails _ rfl rfl) (.turn _ (.reload (fails _ rfl rfl) (.turn _ (.turn _ (.turn _
      (.reload (fails _ rfl rfl) (.done _)))))))
  have permits : lonely.PermitsAll turns :=
    ⟨trivial, ⟨by decide, by decide, by decide⟩, trivial, ⟨by decide, by decide, by decide⟩,
      trivial⟩
  obtain ⟨samePermits, sameFinal, sameStages⟩ := interruptions lonely turns more interrupted
  have notWritable : ¬blockedDisk.Writable Server.relay.storePath := by
    rintro ⟨location, isLocation, free⟩
    cases isLocation
    exact free rfl
  obtain ⟨fails, unchanged⟩ := ingestions lonely.server blockedDisk Server.relay.contacts 6000
  obtain ⟨failure, failed⟩ := fails.mpr (.inr notWritable)
  refine ⟨interrupted, permits, samePermits.mpr permits, ?_, sameStages, notWritable,
    unchanged failure failed⟩
  rw [sameFinal]
  decide

end Daemon

end ContactPlan
