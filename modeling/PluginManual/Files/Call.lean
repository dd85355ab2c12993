import PluginManual.Files.Path

/-! What a program asks of the operating system, one call at a time, and programs as trees of such
    calls: a program is done, or it makes a call and goes on by the answer. The same program can be
    run on a real machine, on a model of a disk, and step by step next to others. -/

namespace PluginManual

/-! ### Answers -/

/-- What a file holds: a text in its encoding, or bytes that encode no text. -/
inductive Content where
  | text (s : Text)
  | binary (bytes : List UInt8)
deriving DecidableEq, Repr

instance : Inhabited Content := ⟨.text []⟩

def Content.ofBytes (bytes : ByteArray) : Content :=
  match String.fromUTF8? bytes with
  | some s => .text s.toList
  | none => .binary bytes.toList

def Content.bytes : Content → ByteArray
  | text s => (String.ofList s).toUTF8
  | binary bytes => ⟨bytes.toArray⟩

/-- The reason why the operating system refused a call. -/
structure OsError where
  code : Nat
  text : Text
deriving DecidableEq, Repr

namespace OsError

def noEntry : OsError := ⟨2, "No such file or directory"⟩
def accessDenied : OsError := ⟨13, "Permission denied"⟩
def busy : OsError := ⟨16, "Device or resource busy"⟩
def alreadyExists : OsError := ⟨17, "File exists"⟩
def notDirectory : OsError := ⟨20, "Not a directory"⟩
def isDirectory : OsError := ⟨21, "Is a directory"⟩
def nameTooLong : OsError := ⟨36, "File name too long"⟩

/-- The reasons for which calls about files are refused as a rule. -/
def common : List OsError :=
  [noEntry, accessDenied, busy, alreadyExists, notDirectory, isDirectory, nameTooLong]

/-- The reason with a number. A reason that is not a common one has the given text. -/
def ofCode (code : Nat) (text : Text) : OsError := (common.find? (·.code = code)).getD ⟨code, text⟩

def message (e : OsError) : Text := e.text ++ " (os error " ++ Text.ofNat e.code ++ ")"

end OsError

/-! ### Calls -/

/-- What is done to a file that is open without changing it. -/
inductive Upkeep where
  /-- Waits until no one else holds the file, and holds it. -/
  | lock
  /-- Waits until the file is safe on the disk. -/
  | sync
  /-- Releases the file. -/
  | unlock
deriving DecidableEq, Repr

inductive Call where
  /-- Reads a whole file. -/
  | read (p : Path)
  /-- Is there a directory? -/
  | isDir (p : Path)
  /-- Is there a file? -/
  | isFile (p : Path)
  /-- The names in a directory, in any order. -/
  | list (p : Path)
  /-- Makes a directory where there is nothing. -/
  | makeDir (p : Path)
  /-- Makes an empty file, or empties the file that is there. -/
  | create (p : Path)
  /-- Puts content into an empty file. -/
  | write (p : Path) (c : Content)
  | upkeep (u : Upkeep) (p : Path)
  /-- Gives a file another path; a file that was there is gone in the same moment. -/
  | rename (p q : Path)
  /-- Removes a file. -/
  | remove (p : Path)
  /-- The absolute path without detours of what is there. -/
  | resolve (p : Path)
  /-- The number that tells the caller from all others. -/
  | callerId
deriving Repr

abbrev Call.Answer : Call → Type
  | read _ => Except OsError Content
  | isDir _ | isFile _ => Bool
  | list _ => Except OsError (List Text)
  | makeDir _ | create _ | write _ _ | upkeep _ _ | rename _ _ | remove _ => Except OsError Unit
  | resolve _ => Except OsError Path
  | callerId => Nat

/-! ### Programs -/

/-- A program that makes calls and comes to a result. -/
inductive Session (α : Type) where
  | done (a : α)
  | ask (c : Call) (next : c.Answer → Session α)

namespace Session

variable {α β : Type}

def bind : Session α → (α → Session β) → Session β
  | done a, f => f a
  | ask c next, f => ask c fun answer => (next answer).bind f

instance : Monad Session where
  pure := done
  bind := bind

def call (c : Call) : Session c.Answer := ask c done

theorem bind_done (s : Session α) : s.bind done = s := by
  induction s with
  | done a => rfl
  | ask c next ih => simp only [bind, ih]

theorem bind_assoc {γ : Type} (s : Session α) (f : α → Session β) (g : β → Session γ) :
    (s.bind f).bind g = s.bind fun a => (f a).bind g := by
  induction s with
  | done a => rfl
  | ask c next ih => simp only [bind, ih]

instance : LawfulMonad Session := LawfulMonad.mk' Session
  (fun s => bind_done s)
  (fun _ _ => rfl)
  (fun s f g => bind_assoc s f g)
  (fun _ _ => rfl)
  (fun _ _ => rfl)
  (fun _ _ => rfl)

end Session
end PluginManual
