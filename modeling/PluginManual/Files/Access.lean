import PluginManual.Files.Call
import PluginManual.Text.Position

/-! Whole files: reading a text, and writing so that a reader never sees a part. The new content goes
    into a file beside the target, which then takes the target's place in one step. -/

namespace PluginManual

/-! ### Errors -/

inductive FileFault where
  | os (e : OsError)
  /-- The bytes encode no text. -/
  | notText
deriving DecidableEq, Repr

inductive FileError where
  | io (p : Path) (fault : FileFault)
  /-- The file with settings breaks off its grammar or does not hold the settings that it should. -/
  | malformed (p : Path) (place : TextPosition)
  /-- The settings are in a file whose extension names no known format. -/
  | unsupported (extension : Text)
  /-- The part with the content for a file could not be locked or not be released. -/
  | lockFailed (p : Path)
deriving DecidableEq, Repr

def FileFault.message : FileFault → Text
  | os e => e.message
  | notText => "stream did not contain valid UTF-8"

namespace FileError

def message : FileError → Text
  | io p fault => "I/O error at " ++ p.text ++ ": " ++ fault.message
  | malformed p place =>
    "Failed to parse TOML config at " ++ p.text ++ ": TOML parse error at " ++ place.message
  | unsupported extension => "Unsupported config format: " ++ extension
  | lockFailed p => "Lock acquisition failed for " ++ p.text

def path? : FileError → Option Path
  | io p _ | malformed p _ | lockFailed p => some p
  | unsupported _ => none

def refused (p : Path) (e : OsError) : FileError := io p (.os e)

/-- What a refusal means in the upkeep of the part for a file. A part that cannot be made safe is named itself; of
    one that cannot be locked or released the file is named. -/
def ofUpkeep (p part : Path) : Upkeep → OsError → FileError
  | .sync, e => refused part e
  | .lock, _ | .unlock, _ => lockFailed p

end FileError

abbrev Action (ε α : Type) := ExceptT ε Session α

namespace Action

variable {ε ε' α : Type}

def call (c : Call) : Action ε c.Answer := ExceptT.lift (Session.call c)

/-- Goes on with the answer to a call that may be refused. -/
def allowAs (fault : OsError → FileError) (s : Session (Except OsError α)) : Action FileError α :=
  ExceptT.mk do return (← s).mapError fault

def allow (p : Path) (s : Session (Except OsError α)) : Action FileError α := allowAs (.refused p) s

def mapError (f : ε → ε') (a : Action ε α) : Action ε' α :=
  ExceptT.mk do return (← a.run).mapError f

end Action

namespace Files

/-! ### Reading -/

def readText (p : Path) : Action FileError Text := do
  match ← Action.call (.read p) with
  | .ok (.text s) => return s
  | .ok (.binary _) => throw (.io p .notText)
  | .error e => throw (.refused p e)

/-! ### Making directories -/

/-- Makes the first of the given directories, each of which lies above the one before it, and those
    above it as far as they are missing. A directory that is there is as good as a new one. -/
def makeDirs : List Path → Session (Except OsError Unit)
  | [] => return .ok ()
  | p :: above => do
    if p.text = [] then return .ok ()
    match ← Session.call (.makeDir p) with
    | .ok () => return .ok ()
    | .error e =>
      if e = .noEntry then
        match ← makeDirs above with
        | .error e => return .error e
        | .ok () => settle p (← Session.call (.makeDir p))
      else settle p (.error e)
where
  /-- A refusal counts only if there is no directory. -/
  settle (p : Path) : Except OsError Unit → Session (Except OsError Unit)
    | .ok () => return .ok ()
    | .error e => do return if ← Session.call (.isDir p) then .ok () else .error e

/-! ### Writing -/

/-- The path of the file that holds the content for `p` until it is complete. Different names have different
    parts; that would not hold of names that encode no text, which are left out, see `Path`. -/
def partPath (id : Nat) (p : Path) : Path :=
  p.withFileName ('.' :: (p.fileName?.getD [] ++ '.' :: Text.ofNat id ++ ".tmp".toList))

def upkeep (p part : Path) (u : Upkeep) : Action FileError Unit :=
  Action.allowAs (.ofUpkeep p part u) (Session.call (.upkeep u part))

/-- Writes the content for a file into a new part and waits until it is safe. The part is locked meanwhile. It bears
    the number of its caller, so nobody else locks it and the lock is never waited for; but locking and releasing
    may be refused. -/
def writePart (p part : Path) (c : Content) : Action FileError Unit := do
  Action.allow part (Session.call (.create part))
  upkeep p part .lock
  Action.allow part (Session.call (.write part c))
  upkeep p part .sync
  upkeep p part .unlock

/-- Writes a file in one step as seen by any reader. The directories above it are made if they are
    missing. After a failure the target is as it was and the part is gone. -/
def writeAtomic (p : Path) (c : Content) : Action FileError Unit := do
  if let some parent := p.parent? then
    Action.allow parent (makeDirs parent.ancestors)
  let part := partPath (← Action.call .callerId) p
  let written : Action FileError Unit := do
    writePart p part c
    Action.allow p (Session.call (.rename part p))
  match ← ExceptT.lift written.run with
  | .ok () => return ()
  | .error e =>
    let _ ← Action.call (.remove part)
    throw e

/-- Writes a text to a file unless the file holds it already, and tells whether it did. A file that is
    not there is written. -/
def writeIfChanged (p : Path) (s : Text) : Action FileError Bool := do
  match ← Action.call (.read p) with
  | .ok c =>
    if c = .text s then return false
    writeAtomic p (.text s)
    return true
  | .error e =>
    if e = .noEntry then
      writeAtomic p (.text s)
      return true
    else throw (.refused p e)

end Files
end PluginManual
