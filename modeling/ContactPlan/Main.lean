import ContactPlan.Command.Outcome
import Std.Time.DateTime.Timestamp

/-
This file is the command line. It reads the files that a command looks at, performs the command
on them, and writes the files that have changed.
-/

namespace ContactPlan.CommandLine

def usage : String :=
  "USAGE: contact-plan [-v]... COMMAND\n" ++
    "  run SETTINGS                    follow the contacts of a settings file\n" ++
    "  ingest SETTINGS                 merge its contacts into the store\n" ++
    "  show [STORE] [--json]           list the stored contacts\n" ++
    "  export [STORE] [-o FILE]        archive the stored contacts\n" ++
    "  decode FILE [--json]            list the contacts of an archive"

def now : IO Instant := do
  let stamp ← Std.Time.Timestamp.now
  return Instant.ofMilliseconds stamp.toMillisecondsSinceUnixEpoch.toInt

/-- A path that can neither be read nor is a directory counts as missing. -/
def node? (path : String) : IO (Option Disk.Node) := do
  try
    return some (.file (← IO.FS.readBinFile path).toList)
  catch
    | .inappropriateType _ 21 _ => return some .directory
    | _ => return none

/-- Nothing has been looked at yet. -/
def unseen : IO Disk := do
  let working := toString (← IO.currentDir)
  return Disk.empty ((Disk.components working).filter (· ≠ ""))

/-- Everything on the way to a path is looked at. -/
def lookAt (disk : Disk) (path : String) : IO Disk := do
  let mut disk := disk
  let mut location := disk.origin path
  let mut walked := ""
  for component in Disk.components path do
    walked := walked ++ component
    location := Disk.descend location component
    match ← node? walked with
    | some node => disk := disk.put location node
    | none => disk := disk.delete location
    walked := walked ++ "/"
  return disk

def lookAtAll (disk : Disk) (paths : List String) : IO Disk := paths.foldlM lookAt disk

/-- Settings name further files. -/
def namedPaths (disk : Disk) (path : String) : List String :=
  match Settings.load disk path with
  | .ok settings => settings.storePath :: settings.exportPath.toList
  | .error _ => []

def lookAtSettings (disk : Disk) (path : String) : IO Disk := do
  let disk ← lookAt disk path
  lookAtAll disk (namedPaths disk path)

def lookForCommand (command : Command) : IO Disk := do
  let disk ← unseen
  match command with
  | .run path => lookAtSettings disk path
  | .ingest path => lookAtSettings disk path
  | .view store _ => lookAt disk store
  | .archive store output => lookAtAll disk (store :: output.toList)
  | .decode file _ => lookAt disk file

def changedPaths (disk : Disk) : Command → List String
  | .run path => namedPaths disk path
  | .ingest path => namedPaths disk path
  | .archive _ output => output.toList
  | _ => []

def writeBack (old new : Disk) (path : String) : IO Unit := do
  match old.read path, new.read path with
  | .ok oldBytes, .ok newBytes =>
      if oldBytes ≠ newBytes then IO.FS.writeBinFile path ⟨newBytes.toArray⟩
  | .error _, .ok newBytes => IO.FS.writeBinFile path ⟨newBytes.toArray⟩
  | _, _ => return

/-- Details are reported on demand only. -/
def report (verbosity : Nat) (reports : List Report) : IO Unit := do
  for report in reports do
    if report.level ≠ .debug || 0 < verbosity then IO.eprintln report.line

/-- The settings are read again when their file has changed. -/
def reload (daemon : Daemon) (verbosity : Nat) : IO Daemon := do
  let disk ← lookAt daemon.disk daemon.path
  let changed : Bool := match daemon.disk.read daemon.path, disk.read daemon.path with
    | .ok old, .ok new => old ≠ new
    | .error _, .error _ => false
    | _, _ => true
  if changed then
    let disk ← lookAt disk daemon.server.settings.storePath
    let (reports, reloaded) := { daemon with disk }.obey (.reload (← now))
    report verbosity reports
    writeBack disk reloaded.disk daemon.server.settings.storePath
    return reloaded
  else return daemon

partial def follow (daemon : Daemon) (verbosity clock : Nat) : IO Unit := do
  IO.sleep 100
  let next ← IO.monoMsNow
  let (reports, daemon) := daemon.elapse (next - clock)
  report verbosity reports
  follow (← reload daemon verbosity) verbosity next

def run (disk : Disk) (path : String) (verbosity : Nat) : IO UInt32 := do
  match Daemon.start disk path (← now) with
  | (reports, .error failure) =>
      report verbosity reports
      IO.eprintln failure.message
      return 1
  | (reports, .ok daemon) =>
      report verbosity reports
      writeBack disk daemon.disk daemon.server.settings.storePath
      follow daemon verbosity (← IO.monoMsNow)
      return 0

def perform (command : Command) : IO UInt32 := do
  let disk ← lookForCommand command
  let outcome := command.perform disk (← now)
  for path in changedPaths disk command do
    writeBack disk outcome.disk path
  IO.print outcome.output
  IO.eprint outcome.complaint
  return UInt32.ofNat outcome.code

def start (arguments : List String) : IO UInt32 := do
  match Request.ofArguments 0 arguments with
  | .help =>
      IO.println usage
      return 0
  | .refused =>
      IO.eprintln usage
      return 2
  | .perform verbosity (.run path) => run (← lookAtSettings (← unseen) path) path verbosity
  | .perform _ command => perform command

end ContactPlan.CommandLine

def main (arguments : List String) : IO UInt32 := ContactPlan.CommandLine.start arguments
