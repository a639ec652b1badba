import Warden.Paths

namespace Warden.Program

/-!
# The command that tells where things are
-/

/-- The directories and the files in them. -/
def placesText (p : Paths) : List String := [
  "PinGuard Paths",
  "==============",
  "",
  "Config:     " ++ p.configDir,
  "  config.toml:    " ++ p.configFile,
  "",
  "State:      " ++ p.stateDir,
  "  engine state:   " ++ p.stateFile,
  "  audit log:      " ++ p.auditLog,
  "",
  "Runtime:    " ++ p.runtimeDir.getD "(not available)",
  "  instance lock:  " ++ p.instanceLock]

end Warden.Program
