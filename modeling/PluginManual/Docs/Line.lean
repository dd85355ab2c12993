import PluginManual.Docs.Basic
import PluginManual.Docs.TypeExpr

/-! A line of a documentation comment: free text, or a tag with what belongs to it. -/

namespace PluginManual

inductive DocLine where
  /-- Free text, which may be empty. -/
  | text (s : Text)
  | param (p : ParamDoc)
  | returns (r : ReturnDoc)
  | note (s : Text)
  /-- The function is not meant for others. -/
  | hidden
  | deprecated (s : Text)
  /-- A class begins, and the fields that follow belong to it. -/
  | classHead (name : Text) (parent : Option Text)
  | field (f : FieldDoc)
  | typeAlias (a : AliasDoc)
  /-- A tag that says nothing here, or one that lacks what belongs to it. -/
  | other
deriving DecidableEq, Repr

namespace DocLine

/-- Drops `word` from the beginning of a text if it stands there. -/
def without (word s : Text) : Text := (word.isPrefixOf? s).getD s

/-- Is the text a name of letters, digits and underscores that does not begin with a digit? -/
def isIdentifier : Text → Bool
  | [] => false
  | c :: s => (c.isAlpha || c = '_') && s.all fun c => c.isAlphanum || c = '_'

/-- The name and the type of something that may be left out if a question mark ends its name: the type
    then admits `nil`. -/
def optional (name type : Text) : Text × Text :=
  match name.reverse with
  | '?' :: bare => (bare.reverse, if "nil|".toList.isPrefixOf type then type else "nil|".toList ++ type)
  | _ => (name, type)

/-- Reads a parameter: its name, its type and a description. -/
def param? (body : Text) : Option ParamDoc :=
  let (name, rest) := body.splitWord
  if name.isEmpty then none
  else
    let (type, description) := TypeExpr.split rest
    let (name, type) := optional name type
    some ⟨name, type, description⟩

/-- Reads a returned value: its type, then a number sign and a description, or a name and a description. -/
def returns? (body : Text) : Option ReturnDoc :=
  let (type, rest) := TypeExpr.split body
  if type.isEmpty then none
  else
    match rest with
    | '#' :: description => some ⟨type, none, Text.trim description⟩
    | _ =>
      let (word, after) := rest.splitWord
      if isIdentifier word then some ⟨type, some word, Text.trim (after.dropWhile (· = '#'))⟩
      else some ⟨type, none, rest⟩

/-- Reads the head of a class: its name, and after a colon the first of its parents. -/
def classHead? (body : Text) : Option (Text × Option Text) :=
  let body := Text.trim (without "(exact)" body)
  let (name, parent) := match body.splitOnce? ':' with
    | some (name, parents) => (name.trim, parents.splitWord.1)
    | none => (body.splitWord.1, [])
  if name.isEmpty then none else some (name, if parent.isEmpty then none else some parent)

/-- Reads a field: its name, its type and a description. A word before the name may say who can see it.
    Fields that not everyone can see are passed over, and so are those without a name of their own. -/
def field? (body : Text) : Option FieldDoc :=
  let (first, rest) := body.splitWord
  if first = "private" ∨ first = "protected" then none
  else
    let (name, rest) := if first = "public" ∨ first = "package" then rest.splitWord else (first, rest)
    if name.isEmpty || name.head? = some '[' then none
    else
      let (type, description) := TypeExpr.split rest
      let (name, type) := optional name type
      some ⟨name, type, description⟩

/-- Reads another name for a type. -/
def alias? (body : Text) : Option AliasDoc :=
  let (name, type) := body.splitWord
  if name.isEmpty then none else some ⟨name, type⟩

/-- Reads what follows the sign of a tag. -/
def ofTag (s : Text) : DocLine :=
  let (tag, body) := s.splitWord
  if tag = "param" then ((param? body).map param).getD other
  else if tag = "return" then ((returns? body).map returns).getD other
  else if tag = "note" then note body
  else if tag = "private" ∨ tag = "package" then hidden
  else if tag = "deprecated" then deprecated body
  else if tag = "class" then ((classHead? body).map fun (name, parent) => classHead name parent).getD other
  else if tag = "field" then ((field? body).map field).getD other
  else if tag = "alias" then ((alias? body).map typeAlias).getD other
  else other

/-- Reads a line without the hyphens at its beginning. Of free text, one blank at the beginning is
    dropped and all at the end. -/
def ofText (s : Text) : DocLine :=
  match s.trim with
  | '@' :: tag => ofTag tag
  | _ => text (Text.trimEnd (without " " s))

end DocLine
end PluginManual
