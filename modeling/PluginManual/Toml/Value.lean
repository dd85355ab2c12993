import PluginManual.Text.Basic

/-! The values of the settings format TOML, and the tables that the lines of a file build up. A table can
    be defined once only; the kind of a table says how it came about and so who may still add to it. -/

namespace PluginManual

/-- How a table came about. -/
inductive TableKind where
  /-- By a header of its own, or as the whole file. -/
  | headed
  /-- By a header of a table inside it. -/
  | implied
  /-- By a key with dots. -/
  | dotted
  /-- In braces, as a value. -/
  | inline
deriving DecidableEq, Repr

/-- A value. Numbers with a fraction, and dates and times, are kept as written. -/
inductive Toml where
  | string (s : Text)
  | integer (n : Int)
  | float (literal : Text)
  | boolean (b : Bool)
  | date (literal : Text)
  | array (xs : List Toml)
  | table (k : TableKind) (entries : List (Text × Toml))
  /-- Tables under one header in double brackets, in order. -/
  | tables (ts : List (List (Text × Toml)))
deriving Repr, Inhabited

namespace Toml

abbrev Entries := List (Text × Toml)

/-- Puts a value under a key, whatever was there. -/
def put (key : Text) (v : Toml) (es : Entries) : Entries := es.filter (·.1 ≠ key) ++ [(key, v)]

/-- Puts a value under a key that is free. -/
def add? (key : Text) (v : Toml) (es : Entries) : Option Entries :=
  if (es.lookup key).isSome then none else some (put key v es)

/-- Changes the entries at the end of a path. Tables that are missing on the way come about as `kind`;
    those that are there must be ones that `mayEnter` allows. A list of tables stands for the last one. -/
def update? (kind : TableKind) (mayEnter : TableKind → Bool) (f : Entries → Option Entries) :
    List Text → Entries → Option Entries
  | [], es => f es
  | key :: path, es =>
    match es.lookup key with
    | none => do return put key (table kind (← update? kind mayEnter f path [])) es
    | some (table k sub) =>
      if mayEnter k then do return put key (table k (← update? kind mayEnter f path sub)) es else none
    | some (tables ts) =>
      match ts.reverse with
      | [] => none
      | last :: before => do
        return put key (tables (before.reverse ++ [← update? kind mayEnter f path last])) es
    | some _ => none

/-- Changes the entries of the table that a header names. -/
def updateAt? (f : Entries → Option Entries) : List Text → Entries → Option Entries :=
  update? .implied (· ≠ .inline) f

def splitPath? (path : List Text) : Option (List Text × Text) := do return (path.dropLast, ← path.getLast?)

/-- Begins the table that a header names: a new one, or one that was only implied so far. -/
def openTable? (path : List Text) (es : Entries) : Option Entries := do
  let (path, key) ← splitPath? path
  updateAt? (fun es =>
    match es.lookup key with
    | none => some (put key (table .headed []) es)
    | some (table .implied sub) => some (put key (table .headed sub) es)
    | some _ => none) path es

/-- Begins another table under a header in double brackets. -/
def appendTable? (path : List Text) (es : Entries) : Option Entries := do
  let (path, key) ← splitPath? path
  updateAt? (fun es =>
    match es.lookup key with
    | none => some (put key (tables [[]]) es)
    | some (tables ts) => some (put key (tables (ts ++ [[]])) es)
    | some _ => none) path es

/-- Adds a value under a key with dots. The tables on the way must come about by such keys; on the way to
    the last of them, one that is only implied will do. -/
def assign? (path : List Text) (v : Toml) (es : Entries) : Option Entries := do
  let (path, key) ← splitPath? path
  match splitPath? path with
  | none => add? key v es
  | some (outer, last) =>
    update? .dotted (fun k => k = .implied || k = .dotted) (fun es =>
      match es.lookup last with
      | none => some (put last (table .dotted [(key, v)]) es)
      | some (table .dotted sub) => do return put last (table .dotted (← add? key v sub)) es
      | some _ => none) outer es

/-- Adds a value under a key with dots to a table in braces, where all tables on the way must come about
    by such keys. -/
def assignInline? (path : List Text) (v : Toml) (es : Entries) : Option Entries := do
  let (path, key) ← splitPath? path
  update? .dotted (· = .dotted) (add? key v) path es

/-! ### Files -/

inductive Statement where
  | header (path : List Text)
  | arrayHeader (path : List Text)
  | assignment (path : List Text) (v : Toml)
deriving Repr

/-- The whole file so far, and the table that is being filled. -/
structure Draft where
  root : Entries := []
  current : List Text := []

/-- The file with another line, if the line does not define something again. -/
def Draft.add? (d : Draft) : Statement → Option Draft
  | .header path => do return ⟨← openTable? path d.root, path⟩
  | .arrayHeader path => do return ⟨← appendTable? path d.root, path⟩
  | .assignment path v => do return { d with root := ← updateAt? (assign? path v) d.current d.root }

/-! ### Reading values -/

def string? : Toml → Option Text
  | string s => some s
  | _ => none

def nat? : Toml → Option Nat
  | integer n => if 0 ≤ n then some n.toNat else none
  | _ => none

/-- What an optional setting holds: nothing if it is missing; `none` if `read` refuses its value. -/
def optional? {α : Type} (es : Entries) (key : String) (read : Toml → Option α) : Option (Option α) :=
  match es.lookup key.toList with
  | some v => (read v).map some
  | none => some none

end Toml
end PluginManual
