import ScanAudit.Demo

/-!
# The command line

`main` plays the scripted session the arguments ask for, stores the export in the working
directory, and ends with the status of the failure and one line on the error stream if
anything went wrong.
-/

namespace ScanAudit.Demo

/-- A failed attempt to store, in the terms of the session. -/
def storageError : IO.Error → StorageError
  | .inappropriateType .. => .isDirectory
  | .permissionDenied _ code details => ⟨code.toNat, "PermissionDenied", details⟩
  | e => ⟨0, "Other", e.toString⟩

/-- Storing a text under a name. -/
def store (name text : String) : IO (Except StorageError Unit) := do
  try
    IO.FS.writeFile name text
    return .ok ()
  catch e =>
    return .error (storageError e)

/-- Plays the session the arguments ask for. The status is 0 for a session that went well,
else that of the failure. -/
def perform (args : List String) : IO UInt32 := do
  let session := Session.play (script args)
  let out ← IO.getStdout
  out.write session.printed
  out.flush
  let ending ← match session.result with
    | .error e => pure (.error e)
    | .ok (text, report) => do
      let stored ← store Session.storeName text
      pure (Session.conclude report stored)
  match ending with
  | .ok () => return 0
  | .error e =>
    (← IO.getStderr).putStr e.report
    return e.status.toUInt32

end ScanAudit.Demo

/-- The command line plays one session. -/
def main (args : List String) : IO UInt32 :=
  ScanAudit.Demo.perform args
