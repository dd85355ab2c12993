import PluginManual.Text.Basic

/-! What the documentation comments of a Lua source say about its functions and types. -/

namespace PluginManual

structure ParamDoc where
  name : Text
  type : Text
  description : Text := []
deriving DecidableEq, Repr, Inhabited

structure ReturnDoc where
  type : Text
  name : Option Text := none
  description : Text := []
deriving DecidableEq, Repr, Inhabited

structure FieldDoc where
  name : Text
  type : Text
  description : Text := []
deriving DecidableEq, Repr, Inhabited

/-- A class with the fields that it declares itself. -/
structure ClassDoc where
  name : Text
  parent : Option Text := none
  fields : List FieldDoc := []
deriving DecidableEq, Repr, Inhabited

/-- Another name for a type expression. -/
structure AliasDoc where
  name : Text
  type : Text
deriving DecidableEq, Repr, Inhabited

structure FunctionDoc where
  name : Text
  /-- The table that holds the function, as written before its name. -/
  table : Option Text := none
  /-- The function is defined with a colon and takes the table as an extra argument. -/
  isMethod : Bool := false
  params : List ParamDoc := []
  returns : List ReturnDoc := []
  summary : List Text := []
  note : Option Text := none
  deprecated : Option Text := none
  /-- The number of the line where the definition begins, counted from one. -/
  line : Nat := 0
deriving DecidableEq, Repr, Inhabited

namespace FunctionDoc

/-- The name that tells the function from the others of its file. -/
def id (f : FunctionDoc) : Text :=
  match f.table with
  | some table => table ++ '.' :: f.name
  | none => f.name

/-- The function with the names of its parameters, as in a call. -/
def signature (f : FunctionDoc) : Text :=
  f.name ++ '(' :: Text.join ", " (f.params.map (·.name)) ++ [')']

def returnTypes (f : FunctionDoc) : Option Text :=
  if f.returns.isEmpty then none else some (Text.join ", " (f.returns.map (·.type)))

end FunctionDoc
end PluginManual
