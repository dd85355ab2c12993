import PluginManual.CommandLine

/-! The program: runs the command line on this machine. -/

namespace PluginManual

/-- The number of a failure. Some calls give its negation. -/
def failureCode (code : UInt32) : Nat := min code.toNat (-code).toNat

/-- The reason that the system gives for a failure. -/
def OsError.ofIO : IO.Error → OsError
  | .alreadyExists _ code text | .otherError code text | .resourceBusy code text
  | .resourceVanished code text | .unsupportedOperation code text | .hardwareFault code text
  | .unsatisfiedConstraints code text | .illegalOperation code text | .protocolError code text
  | .timeExpired code text | .interrupted _ code text | .noFileOrDirectory _ code text
  | .invalidArgument _ code text | .permissionDenied _ code text | .resourceExhausted _ code text
  | .inappropriateType _ code text | .noSuchThing _ code text =>
    OsError.ofCode (failureCode code) text.toList
  | .unexpectedEof => ⟨0, "unexpected end of file"⟩
  | .userError text => ⟨0, text.toList⟩

/-- The path as the system takes it. -/
def Path.toString (p : Path) : String := String.ofList p.text

def attempt {α : Type} (act : IO α) : IO (Except OsError α) := do
  match ← act.toBaseIO with
  | .ok a => return .ok a
  | .error e => return .error (OsError.ofIO e)

def hasKind (p : Path) (k : IO.FS.FileType) : IO Bool := do
  let here ← IO.currentDir
  match ← { here with toString := p.toString }.metadata.toBaseIO with
  | .ok m => return m.type == k
  | .error _ => return false

def entryNames (p : Path) : IO (List Text) := do
  let here ← IO.currentDir
  let found ← { here with toString := p.toString }.readDir
  return (found.map fun e => e.fileName.toList).toList

/-- A lock that is taken here ends with the handle. -/
def Upkeep.perform (h : IO.FS.Handle) : Upkeep → IO Unit
  | lock => h.lock
  | sync => h.flush
  | unlock => h.unlock

def Call.perform : (c : Call) → IO c.Answer
  | .read p => attempt do return Content.ofBytes (← IO.FS.readBinFile p.toString)
  | .isDir p => hasKind p .dir
  | .isFile p => hasKind p .file
  | .list p => attempt (entryNames p)
  | .makeDir p => attempt (IO.FS.createDir p.toString)
  | .create p => attempt (IO.FS.writeBinFile p.toString .empty)
  | .write p c => attempt (IO.FS.writeBinFile p.toString c.bytes)
  | .upkeep u p => attempt do u.perform (← IO.FS.Handle.mk p.toString .append)
  | .rename p q => attempt (IO.FS.rename p.toString q.toString)
  | .remove p => attempt (IO.FS.removeFile p.toString)
  | .resolve p => attempt do return ⟨(← IO.FS.realPath p.toString).toString.toList⟩
  | .callerId => IO.monoNanosNow

def Session.perform {α : Type} : Session α → IO α
  | .done a => return a
  | .ask c next => do (next (← c.perform)).perform

end PluginManual

def main (args : List String) : IO UInt32 := do
  let result ← (PluginManual.Command.runWords (args.map String.toList)).perform
  (← IO.getStdout).putStr (String.ofList result.out)
  (← IO.getStderr).putStr (String.ofList result.err)
  return result.code.toUInt32
