import PluginManual.Docs.Line

/-! A documentation comment: a run of lines that stand together. It describes the function after it, if
    there is one, and it may define types. -/

namespace PluginManual
namespace DocBlock

/-! ### Types -/

/-- The classes that a comment defines. A field belongs to the class before it; without one it belongs
    to nothing. -/
def classes (block : List DocLine) : List ClassDoc := go none block
where
  /-- The classes from `current` on, the class whose fields are being read. -/
  go (current : Option ClassDoc) : List DocLine → List ClassDoc
    | [] => current.toList
    | .classHead name parent :: rest => current.toList ++ go (some ⟨name, parent, []⟩) rest
    | .field f :: rest => go (current.map fun c => { c with fields := c.fields ++ [f] }) rest
    | _ :: rest => go current rest

/-- The other names for types that a comment defines. -/
def aliases (block : List DocLine) : List AliasDoc :=
  block.filterMap fun
    | .typeAlias a => some a
    | _ => none

/-! ### Functions -/

/-- What is known of a function while its comment is read. -/
structure Reading where
  function : FunctionDoc
  /-- Free text belongs to the note. -/
  inNote : Bool := false
  /-- Free text belongs to a class. -/
  inClass : Bool := false

/-- The parameters with the first one of that name described. -/
def describe (p : ParamDoc) : List ParamDoc → List ParamDoc
  | [] => []
  | q :: qs => if q.name = p.name then p :: qs else q :: describe p qs

def extendNote (note s : Text) : Text := (if note = [] then [] else note ++ ['\n']) ++ s.trim

def read (r : Reading) : DocLine → Reading
  | .text s =>
    if r.inNote then { r with function.note := r.function.note.map (extendNote · s) }
    else if r.inClass then r
    else { r with function.summary := r.function.summary ++ [s] }
  | .param p => { r with inNote := false, function.params := describe p r.function.params }
  | .returns v => { r with inNote := false, function.returns := r.function.returns ++ [v] }
  | .note s => { r with inNote := true, function.note := some s }
  | .deprecated s => { r with inNote := false, function.deprecated := some s }
  | .classHead _ _ => { r with inClass := true }
  | .hidden | .field _ | .typeAlias _ | .other => { r with inNote := false }

def dropBlankEnd (lines : List Text) : List Text := (lines.reverse.dropWhile Text.isBlank).reverse

/-- The function with what its comment says of it. A comment that hides the function leaves nothing. -/
def document? (block : List DocLine) (f : FunctionDoc) : Option FunctionDoc :=
  if .hidden ∈ block then none
  else
    let f := (block.foldl read { function := f }).function
    some { f with summary := dropBlankEnd f.summary }

end DocBlock
end PluginManual
