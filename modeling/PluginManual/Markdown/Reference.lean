import PluginManual.Docs.Catalog
import PluginManual.Markdown.Table
import PluginManual.Text.Lines

/-! The reference of functions in Markdown. Each function has a heading, its signature and summary, tables
    of its parameters and of what it returns, a note, and whether it is deprecated; a blank line ends it. -/

namespace PluginManual
namespace Reference

def code (s : Text) : Text := '\x60' :: s ++ ['\x60']

def typeCell (type : Text) : Text := code (Table.escape type)

/-- The line with the signature, and the lines of the summary. -/
def opening (f : FunctionDoc) : List Text :=
  let signature := match f.returnTypes with
    | some types => code (f.signature ++ ": " ++ types)
    | none => code f.signature
  if f.summary.isEmpty then [signature ++ ['\n']]
  else (signature ++ " \\\n") :: f.summary.map (· ++ ['\n'])

/-- The row of a parameter, and rows for the fields if its type refers to a class. -/
def paramRows (c : Catalog) (p : ParamDoc) : List (List Text) :=
  let fields := ((c.classFor? p.type).map c.fieldsOf).getD []
  [p.name, typeCell p.type, Table.escape p.description] ::
    fields.map fun f => ['>' :: f.name, typeCell f.type, Table.escape f.description]

/-- The description of a returned value, with its name before it. -/
def returnText (r : ReturnDoc) : Text :=
  match r.name with
  | some name => if r.description.isEmpty then name else name ++ ' ' :: r.description
  | none => r.description

def returnRow (r : ReturnDoc) : List Text := [typeCell r.type, Table.escape (returnText r)]

def paramLines (c : Catalog) (ps : List ParamDoc) : List Text :=
  if ps.isEmpty then []
  else ['\n'] :: Table.lines ["Param", "Type", "Desc"] (ps.flatMap (paramRows c))

def returnLines (rs : List ReturnDoc) : List Text :=
  if rs.isEmpty then []
  else ['\n'] :: "**Returns:**\n" :: ['\n'] :: Table.lines ["Type", "Desc"] (rs.map returnRow)

def noteLines : Option Text → List Text
  | none => []
  | some note =>
    ['\n'] :: "**Note:**\n" :: "<pre>\n" :: (note.bareLines.map (· ++ ['\n']) ++ ["</pre>\n".toList])

def deprecatedLines : Option Text → List Text
  | none => []
  | some reason =>
    [['\n'], if reason.isEmpty then "**Deprecated**\n" else "**Deprecated:** " ++ reason ++ ['\n']]

/-- The lines for one function, with its heading at the given level. -/
def functionLines (c : Catalog) (level : Nat) (f : FunctionDoc) : List Text :=
  (List.replicate (max level 1) '#' ++ ' ' :: f.signature ++ ['\n']) :: ['\n'] ::
    (opening f ++ paramLines c f.params ++ returnLines f.returns ++ noteLines f.note ++
      deprecatedLines f.deprecated ++ [['\n']])

def lines (c : Catalog) (level : Nat) (fs : List FunctionDoc) : List Text :=
  fs.flatMap (functionLines c level)

end Reference
end PluginManual
