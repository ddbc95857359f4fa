import ContactPlan.Server.Basic

namespace ContactPlan

/-- A daemon reports what it does line by line.
What is reported is kept as a value until it is written. -/
inductive Report where
  | seeded (routes : Nat)
  | resumed (contacts : Nat)
  | serving (routerId : Address) (own : Asn) (routes new : Nat) (path : String)
  | handled (handled : Handled)
  | reloaded (path : String) (new : Nat)
  | reloadFailed (path : String) (failure : Failure)
  | ingestFailed (path : String) (failure : Failure)
  | stopping (pending : Nat)

inductive Report.Level where
  | debug
  | info
  | warn
  deriving DecidableEq

def Report.Level.text : Report.Level → String
  | .debug => "debug"
  | .info => "info"
  | .warn => "warn"

def Report.level : Report → Report.Level
  | .seeded _ => .debug
  | .resumed _ => .info
  | .serving _ _ _ _ _ => .info
  | .handled _ => .debug
  | .reloaded _ _ => .info
  | .reloadFailed _ _ => .warn
  | .ingestFailed _ _ => .warn
  | .stopping _ => .info

def Report.text : Report → String
  | .seeded routes => "Seeded RIB with " ++ Decimal.write routes ++ " static routes"
  | .resumed contacts => "Resumed " ++ Decimal.write contacts ++ " stored contacts"
  | .serving routerId own routes new path =>
      "Router " ++ routerId.text ++ " (AS" ++ own.text ++ ") serving " ++ Decimal.write routes ++
        " routes, " ++ Decimal.write new ++ " new contacts from " ++ path
  | .handled outcome =>
      "Handled " ++ outcome.event.text ++ " (" ++ Decimal.write outcome.changes ++
        " routes changed)"
  | .reloaded path new => "Reloaded " ++ path ++ ": " ++ Decimal.write new ++ " new contacts"
  | .reloadFailed path failure => "Error reloading " ++ path ++ ": " ++ failure.message
  | .ingestFailed path failure =>
      "Error ingesting contacts from " ++ path ++ ": " ++ failure.message
  | .stopping pending => "Stopping with " ++ Decimal.write pending ++ " contacts pending"

def Report.line (report : Report) : String := report.level.text ++ " " ++ report.text

/-- A daemon reads its settings again when it is asked to, so that it remembers where they are. -/
structure Daemon where
  path : String
  server : Server
  disk : Disk

def Report.resumption : Option Nat → List Report
  | none => []
  | some contacts => [.resumed contacts]

/-- The stored contacts are resumed before those of the settings are ingested. -/
def Daemon.launch (disk : Disk) (path : String) (settings : Settings) (now : Instant) :
    List Report × Except Failure Daemon :=
  let seeded := Report.seeded settings.routes.length
  match (Server.start settings).resume disk now with
  | (.error failure, _) => ([seeded], .error failure)
  | (.ok resumed, server) =>
      let reports := seeded :: Report.resumption resumed
      match server.ingest disk settings.contacts now with
      | (.error failure, _, _) => (reports, .error failure)
      | (.ok new, server, disk) =>
          (reports ++ [.serving settings.routerId settings.own server.table.size new.size path],
            .ok ⟨path, server, disk⟩)

/-- Nothing is reported before the settings have been read. -/
def Daemon.start (disk : Disk) (path : String) (now : Instant) :
    List Report × Except Failure Daemon :=
  match Settings.load disk path with
  | .error failure => ([], .error failure)
  | .ok settings => Daemon.launch disk path settings now

/-- Every event that is handled is reported. -/
def Daemon.elapse (daemon : Daemon) (milliseconds : Nat) : List Report × Daemon :=
  let (handled, server) := daemon.server.elapse milliseconds
  (handled.map .handled, { daemon with server })

/-- An ingestion is reported with what it has found to be new or with its failure. -/
def Report.ingestion (path : String) : Except Failure ContactSet → Report
  | .error failure => .ingestFailed path failure
  | .ok new => .reloaded path new.size

/-- Of new settings only the contacts count.
The daemon goes on with the server and the disk that the ingestion leaves, whether that fails or
not. -/
def Daemon.reload (daemon : Daemon) (now : Instant) : Report × Daemon :=
  match Settings.load daemon.disk daemon.path with
  | .error failure => (.reloadFailed daemon.path failure, daemon)
  | .ok settings =>
      let (outcome, server, disk) := daemon.server.ingest daemon.disk settings.contacts now
      (.ingestion daemon.path outcome, { daemon with server, disk })

/-- Between two events a daemon can be told to wait, that files have changed, or to reload. -/
inductive Signal where
  | elapse (milliseconds : Nat)
  | replace (disk : Disk)
  | reload (now : Instant)

/-- Only a reload looks at the settings again. -/
def Daemon.obey (daemon : Daemon) : Signal → List Report × Daemon
  | .elapse milliseconds => daemon.elapse milliseconds
  | .replace disk => ([], { daemon with disk })
  | .reload now =>
      let (report, daemon) := daemon.reload now
      ([report], daemon)

def Daemon.obeyAll (daemon : Daemon) : List Signal → List Report × Daemon
  | [] => ([], daemon)
  | signal :: signals =>
      let (reports, daemon) := daemon.obey signal
      let (rest, daemon) := daemon.obeyAll signals
      (reports ++ rest, daemon)

/-- A daemon that stops tells how many contacts it leaves behind. -/
def Daemon.stop (daemon : Daemon) : Report := .stopping daemon.server.agenda.pending

end ContactPlan
