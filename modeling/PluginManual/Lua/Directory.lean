import PluginManual.Docs.Catalog
import PluginManual.Files.Access
import PluginManual.Lua.Source

/-! The Lua sources below a directory, and the catalog of what they document. The sources are taken in the
    order of their names from the directory down, so that the listing of a directory may come in any
    order; of two definitions of one type the later counts. -/

namespace PluginManual

inductive SourceError where
  | file (e : FileError)
  | notDirectory (p : Path)
deriving DecidableEq, Repr

def SourceError.message : SourceError → Text
  | file e => "Filesystem error: " ++ e.message
  | notDirectory p => "Not a directory: " ++ p.text

structure SourceFile where
  path : Path
  /-- The names on the way from the directory of sources to the file. -/
  names : List Text
deriving DecidableEq, Repr

namespace SourceFile

/-- The key under which the functions of the file are found. Names that encode no text are left out, see `Path`;
    their keys could be the same. -/
def key (f : SourceFile) : Text := Text.join ['/'] f.names

def isSource (p : Path) : Bool := p.extension? = some "lua".toList

/-- Does the first file come before the second, or are they the same? -/
def le (f g : SourceFile) : Bool :=
  !List.lex g.names f.names fun a b => List.lex a b fun c d => c.toNat < d.toNat

/-- No directories can be nested so deep that the path is still short enough to be followed. -/
def maxDepth : Nat := 4096

/-- All source files below a directory that the given names lead to, in any order. -/
def below (depth : Nat) (p : Path) (names : List Text) : Action FileError (List SourceFile) :=
  match depth with
  | 0 => throw (.refused p .nameTooLong)
  | depth + 1 => do
    let entries ← Action.allow p (Session.call (.list p))
    let found ← entries.mapM fun name => do
      let q := p.child name
      let names := names ++ [name]
      if ← Action.call (.isDir q) then below depth q names
      else if isSource q then return [⟨q, names⟩]
      else return []
    return found.flatten

end SourceFile

namespace Catalog

def addSource (c : Catalog) (key : Text) (s : LuaSource) : Catalog :=
  let c := s.classes.foldl addClass c
  let c := s.aliases.foldl addAlias c
  c.addFile key s.functions

def addFiles (c : Catalog) : List SourceFile → Action FileError Catalog
  | [] => return c
  | f :: rest => do
    let s ← Files.readText f.path
    (c.addSource f.key (LuaSource.ofText s)).addFiles rest

def ofDirectory (p : Path) : Action SourceError Catalog := do
  unless ← Action.call (.isDir p) do throw (.notDirectory p)
  Action.mapError .file do
    let files ← SourceFile.below SourceFile.maxDepth p []
    addFiles {} (files.mergeSort SourceFile.le)

end Catalog
end PluginManual
