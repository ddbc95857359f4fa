import ContactPlan.Contact.Archive
import ContactPlan.Settings.Basic

namespace ContactPlan

inductive Failure where
  | storage (fault : Disk.Fault)
  | settings (fault : Settings.Fault)
  | archive (fault : Archive.Fault)

/-- A file is blamed on the store, also when it holds settings. -/
def Failure.message : Failure → String
  | .storage fault => "contact store error: " ++ fault.message
  | .settings fault => "config error: " ++ fault.message
  | .archive fault => "export error: " ++ fault.message

def Settings.load (disk : Disk) (path : String) : Except Failure Settings :=
  match disk.readText path with
  | .error fault => .error (.storage fault)
  | .ok text =>
      match Settings.ofText text with
      | .error fault => .error (.settings fault)
      | .ok settings => .ok settings

end ContactPlan
