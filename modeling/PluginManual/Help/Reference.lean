import PluginManual.Docs.Catalog
import PluginManual.Help.Layout
import PluginManual.Text.Lines

/-! The reference of functions in a help file. Each function has a line with its name, its parameters and
    its tag, and below that its summary, whether it is deprecated, its parameters, what it returns, and a
    note; a blank line ends it. -/

namespace PluginManual
namespace Help

def placeholder (name : Text) : Text := '\x7b' :: name ++ ['\x7d']

/-- The name of a function with its parameters and the types of what it returns. -/
def functionTitle (f : FunctionDoc) : Text :=
  let call := f.name ++ '(' :: Text.join ", " (f.params.map fun p => placeholder p.name) ++ [')']
  match f.returnTypes with
  | some types => call ++ ": " ++ types
  | none => call

def functionTag (plugin : Text) (f : FunctionDoc) : Text := plugin ++ '.' :: f.name

def entryLine (margin : Nat) (name type description : Text) : Text :=
  Text.spaces margin ++ name ++ " \x60" ++ type ++ ['\x60'] ++
    (if description.isEmpty then [] else ' ' :: description) ++ ['\n']

/-- The names as placeholders, all as wide as the widest. -/
def placeholders (names : List Text) : List Text :=
  let widest := ((names.map fun name => name.length + 2).max?).getD 0
  names.map fun name => Text.padEnd widest (placeholder name)

/-- The lines of the summary. An empty line stays empty. -/
def summaryLines (summary : List Text) : List Text :=
  summary.map fun line => if line.isEmpty then ['\n'] else Text.spaces 4 ++ line ++ ['\n']

def deprecatedLines : Option Text → List Text
  | none => []
  | some reason =>
    [['\n'], if reason.isEmpty then "    Deprecated\n" else "    Deprecated: " ++ reason ++ ['\n']]

def fieldLines (c : Catalog) (type : Text) : List Text :=
  let fields := ((c.classFor? type).map c.fieldsOf).getD []
  List.zipWith (fun name f => entryLine 10 name f.type f.description)
    (placeholders (fields.map (·.name))) fields

def paramLines (c : Catalog) (ps : List ParamDoc) : List Text :=
  if ps.isEmpty then []
  else
    ['\n'] :: "    Parameters:\n" ::
      (List.zipWith (fun name p => entryLine 6 name p.type p.description :: fieldLines c p.type)
        (placeholders (ps.map (·.name))) ps).flatten

def returnLine (r : ReturnDoc) : Text :=
  let parts := ('\x60' :: r.type ++ ['\x60']) :: r.name.toList ++
    (if r.description.isEmpty then [] else [r.description])
  Text.spaces 6 ++ Text.join " " parts ++ ['\n']

def returnLines (rs : List ReturnDoc) : List Text :=
  if rs.isEmpty then [] else ['\n'] :: "    Returns:\n" :: rs.map returnLine

/-- The lines of a note. A blank line becomes empty. -/
def noteLines : Option Text → List Text
  | none => []
  | some note =>
    ['\n'] :: "    Note:\n" ::
      note.bareLines.map fun line =>
        if Text.isBlank line then ['\n'] else Text.spaces 6 ++ line ++ ['\n']

def functionLines (c : Catalog) (plugin : Text) (f : FunctionDoc) : List Text :=
  tagged (functionTitle f) (tagDefinition (functionTag plugin f)) ++ summaryLines f.summary ++
    deprecatedLines f.deprecated ++ paramLines c f.params ++ returnLines f.returns ++
    noteLines f.note ++ [['\n']]

/-- The lines for several functions, after an empty line. -/
def referenceLines (c : Catalog) (plugin : Text) (fs : List FunctionDoc) : List Text :=
  ['\n'] :: fs.flatMap (functionLines c plugin)

end Help
end PluginManual
