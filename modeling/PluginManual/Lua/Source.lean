import PluginManual.Docs.Block
import PluginManual.Lua.Definition
import PluginManual.Text.Lines

/-! Documentation in a Lua source: comments whose lines begin with three hyphens, and the functions that
    are defined right after them. -/

namespace PluginManual

structure LuaComment where
  lines : List DocLine
  /-- The number of the line after the comment, and the text of the definition that would begin there. -/
  subject : Option (Nat × Text)
deriving Repr

namespace LuaComment

/-- What a line of documentation says behind its hyphens. -/
def docText? (line : Text) : Option Text := "---".toList.isPrefixOf? line.trimStart

/-- The comments in the lines of a source, the first of which has the number `n`. The lines of the
    comment that has begun are `begun`. -/
def scan (n : Nat) (begun : List DocLine) : List Text → List LuaComment
  | [] => if begun = [] then [] else [⟨begun, none⟩]
  | line :: rest =>
    match docText? line with
    | some s => scan (n + 1) (begun ++ [DocLine.ofText s]) rest
    | none =>
      if begun = [] then scan (n + 1) [] rest
      else ⟨begun, some (n, LuaDefinition.wrapped line rest)⟩ :: scan (n + 1) [] rest

/-- The function that the comment describes, if a definition follows it and it does not hide it. -/
def function? (c : LuaComment) : Option FunctionDoc := do
  let (n, text) ← c.subject
  let d ← LuaDefinition.ofText? text
  DocBlock.document? c.lines { d.function with line := n }

end LuaComment

/-- What the comments of a source document, in the order of the source. -/
structure LuaSource where
  functions : List FunctionDoc := []
  classes : List ClassDoc := []
  aliases : List AliasDoc := []
deriving DecidableEq, Repr

namespace LuaSource

def ofComments (cs : List LuaComment) : LuaSource where
  functions := cs.filterMap LuaComment.function?
  classes := cs.flatMap fun c => DocBlock.classes c.lines
  aliases := cs.flatMap fun c => DocBlock.aliases c.lines

def ofText (s : Text) : LuaSource := ofComments (LuaComment.scan 1 [] s.bareLines)

end LuaSource
end PluginManual
