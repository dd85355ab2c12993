import PluginManual.Docs.Basic
import PluginManual.Docs.Dictionary
import PluginManual.Docs.TypeExpr

/-! Catalogs: the functions of several files, and all classes and other names for types, whichever file
    defines them. -/

namespace PluginManual

/-- What is documented in a set of files: the functions of each file under its key, and each class and each
    other name for a type under its name. -/
structure Catalog where
  files : Dictionary (List FunctionDoc) := ∅
  classes : Dictionary ClassDoc := ∅
  /-- The types that other names stand for. -/
  aliases : Dictionary Text := ∅
deriving DecidableEq, Repr, Inhabited

namespace TypeExpr

/-- The one alternative of a type other than `nil`, if there is one only. Question marks at the end do
    not count. -/
def single? (type : Text) : Option Text :=
  let type := Text.dropEndWhile (· = '?') type.trim
  match ((type.splitOn '|').map Text.trim).filter (· ≠ "nil".toList) with
  | [name] => some name
  | _ => none

end TypeExpr

namespace Catalog

/-! ### Building -/

/-- Adds a class under its name; one that is there under this name gives way. -/
def addClass (c : Catalog) (k : ClassDoc) : Catalog := { c with classes := c.classes.insert k.name k }

/-- Adds another name for a type; what the name stood for gives way. -/
def addAlias (c : Catalog) (a : AliasDoc) : Catalog := { c with aliases := c.aliases.insert a.name a.type }

/-- Adds the functions of a file; those of a file with the same key give way. -/
def addFile (c : Catalog) (key : Text) (fs : List FunctionDoc) : Catalog :=
  { c with files := c.files.insert key fs }

/-! ### Looking up -/

def functions? (c : Catalog) (key : Text) : Option (List FunctionDoc) := c.files.get? key

def class? (c : Catalog) (name : Text) : Option ClassDoc := c.classes.get? name

def alias? (c : Catalog) (name : Text) : Option Text := c.aliases.get? name

/-- Each class is known under its own name. -/
def HasOwnNames (c : Catalog) : Prop := ∀ name k, c.class? name = some k → k.name = name

instance (c : Catalog) : Decidable c.HasOwnNames :=
  decidable_of_iff (∀ e ∈ c.classes.entries, e.2.name = e.1)
    ⟨fun h _ _ hk => h _ (Dictionary.get?_eq_some_iff.mp hk), fun h _ he => h _ _ (Dictionary.get?_eq_some_iff.mpr he)⟩

/-- The class that a type refers to, if other names lead there in fewer than `n` steps. -/
def follow (c : Catalog) : Nat → Text → Option ClassDoc
  | 0, _ => none
  | n + 1, type => do
    let name ← TypeExpr.single? type
    match c.class? name with
    | some k => return k
    | none => c.follow n (← c.alias? name)

/-- The class that a type refers to, `nil` as an alternative aside. Other names for types are followed;
    a walk longer than there are names would go in circles. -/
def classFor? (c : Catalog) (type : Text) : Option ClassDoc := c.follow (c.aliases.size + 1) type

/-- Continues a chain of classes, the most distant ancestor first, with up to `n` more ancestors. No
    class comes twice. -/
def ancestry (c : Catalog) : Nat → List ClassDoc → List ClassDoc
  | 0, chain => chain
  | n + 1, chain =>
    match chain.head?.bind (·.parent) with
    | none => chain
    | some name =>
      match c.class? name with
      | none => chain
      | some k => if chain.any (·.name = k.name) then chain else c.ancestry n (k :: chain)

/-- The fields of a class, those that it inherits first. -/
def fieldsOf (c : Catalog) (k : ClassDoc) : List FieldDoc :=
  (c.ancestry c.classes.size [k]).flatMap (·.fields)

end Catalog
end PluginManual
