import PluginManual.Proofs.Definitions
import PluginManual.Proofs.DocRuns

/-! What a source documents, told without the scan and without the reader of definitions: each line that defines a
    function right after a run of documentation that does not hide it, and the classes and other names for types
    of all runs. -/

namespace PluginManual
open LuaComment

/-! ### Tags -/

/-- What follows a tag on a line of documentation. -/
def tagBody? (tag line : Text) : Option Text := do
  match (← docText? line).trim with
  | '@' :: s => if (Text.splitWord s).1 = tag then some (Text.splitWord s).2 else none
  | _ => none

/-- The line hides the function after it. -/
def Hides (line : Text) : Prop := (tagBody? "private" line).isSome ∨ (tagBody? "package" line).isSome

/-- The head of a class. A class without a name is none. -/
def classLine? (line : Text) : Option (Text × Option Text) := (tagBody? "class" line).bind DocLine.classHead?

def fieldLine? (line : Text) : Option FieldDoc := (tagBody? "field" line).bind DocLine.field?

def aliasLine? (line : Text) : Option AliasDoc := (tagBody? "alias" line).bind DocLine.alias?

namespace DocLine

def asClass? : DocLine → Option (Text × Option Text)
  | classHead name parent => some (name, parent)
  | _ => none

def asField? : DocLine → Option FieldDoc
  | field f => some f
  | _ => none

def asAlias? : DocLine → Option AliasDoc
  | typeAlias a => some a
  | _ => none

variable {α : Type} {view : DocLine → Option α}

theorem view_getD (hother : view other = none) {β : Type} (o : Option β) (f : β → DocLine) :
    view ((o.map f).getD other) = o.bind fun b => view (f b) := by
  cases o with
  | none => exact hother
  | some b => rfl

/-- What is seen of a line with a tag goes by the tag. -/
theorem view_ofTag (view : DocLine → Option α) (hother : view other = none) (s : Text) : view (ofTag s) =
    if s.splitWord.1 = "param" then (param? s.splitWord.2).bind fun p => view (param p)
    else if s.splitWord.1 = "return" then (returns? s.splitWord.2).bind fun r => view (returns r)
    else if s.splitWord.1 = "note" then view (note s.splitWord.2)
    else if s.splitWord.1 = "private" ∨ s.splitWord.1 = "package" then view hidden
    else if s.splitWord.1 = "deprecated" then view (deprecated s.splitWord.2)
    else if s.splitWord.1 = "class" then (classHead? s.splitWord.2).bind fun k => view (classHead k.1 k.2)
    else if s.splitWord.1 = "field" then (field? s.splitWord.2).bind fun f => view (field f)
    else if s.splitWord.1 = "alias" then (alias? s.splitWord.2).bind fun a => view (typeAlias a)
    else none := by
  simp only [ofTag, apply_ite view, view_getD hother, hother]

/-- A tag is not taken for one before it. -/
theorem ite_tag {tag this : Text} {p : Prop} [Decidable p] (hp : tag = this → ¬ p) (o : Option α) :
    (if p then none else if tag = this then o else none) = if tag = this then o else none :=
  ite_eq_right_iff.mpr fun h => (if_neg fun htag => hp htag h).symm

theorem asClass?_ofTag (s : Text) :
    (ofTag s).asClass? = if s.splitWord.1 = "class" then classHead? s.splitWord.2 else none := by
  rw [view_ofTag asClass? rfl]
  simp only [asClass?, Option.bind_fun_none, ite_self]
  iterate 5 rw [ite_tag (by rintro htag; rw [htag]; decide)]
  exact congrArg (fun o => if s.splitWord.1 = "class" then o else none) (Option.bind_fun_some _)

theorem asField?_ofTag (s : Text) :
    (ofTag s).asField? = if s.splitWord.1 = "field" then field? s.splitWord.2 else none := by
  rw [view_ofTag asField? rfl]
  simp only [asField?, Option.bind_fun_some, Option.bind_fun_none, ite_self]
  iterate 6 rw [ite_tag (by rintro htag; rw [htag]; decide)]

theorem asAlias?_ofTag (s : Text) :
    (ofTag s).asAlias? = if s.splitWord.1 = "alias" then alias? s.splitWord.2 else none := by
  rw [view_ofTag asAlias? rfl]
  simp only [asAlias?, Option.bind_fun_some, Option.bind_fun_none]
  iterate 7 rw [ite_tag (by rintro htag; rw [htag]; decide)]

theorem ofTag_eq_hidden_iff (s : Text) : ofTag s = hidden ↔ s.splitWord.1 = "private" ∨ s.splitWord.1 = "package" := by
  have hview := view_ofTag (fun l => if l = hidden then some () else none) rfl s
  simp only [reduceCtorEq, if_false, if_true, Option.bind_fun_none, ite_self] at hview
  constructor
  · intro h
    by_contra htag
    rw [if_pos h, if_neg htag, ite_self, ite_self, ite_self] at hview
    cases hview
  · intro htag
    by_contra h
    rw [if_neg h] at hview
    rcases htag with htag | htag <;> rw [htag] at hview <;> cases hview

end DocLine

variable {line s : Text}

theorem tagBody?_of_trim {t : Text} (hs : docText? line = some s) (ht : s.trim = '@' :: t) (tag : Text) :
    tagBody? tag line = if t.splitWord.1 = tag then some t.splitWord.2 else none := by
  rw [tagBody?, hs]
  simp only [Option.bind_eq_bind, Option.bind_some, ht]

theorem tagBody?_of_text (hs : docText? line = some s) (ht : ∀ t, s.trim ≠ '@' :: t) (tag : Text) :
    tagBody? tag line = none := by
  rw [tagBody?, hs]
  show (match s.trim with | '@' :: t => _ | _ => none) = none
  split
  · next h => exact absurd h (ht _)
  · rfl

theorem docLine?_of_docText? (h : docText? line = some s) : docLine? line = some (DocLine.ofText s) := by
  rw [docLine?, h]
  rfl

/-- What is seen of lines with one tag only can be told from what follows this tag. -/
theorem tagBody?_bind {α : Type} {view : DocLine → Option α} {read : Text → Option α} {tag : Text}
    (htext : ∀ s, view (.text s) = none)
    (htag : ∀ s, view (DocLine.ofTag s) = if s.splitWord.1 = tag then read s.splitWord.2 else none) (line : Text) :
    (tagBody? tag line).bind read = (docLine? line).bind view := by
  cases hs : docText? line with
  | none =>
    rw [tagBody?, docLine?, hs]
    rfl
  | some s =>
    rw [docLine?_of_docText? hs, Option.bind_some, DocLine.ofText]
    split
    · next t ht =>
      rw [tagBody?_of_trim hs ht, htag]
      split <;> rfl
    · next ht =>
      rw [tagBody?_of_text hs ht, htext]
      rfl

theorem classLine?_eq (line : Text) : classLine? line = (docLine? line).bind DocLine.asClass? :=
  tagBody?_bind (fun _ => rfl) DocLine.asClass?_ofTag line

theorem fieldLine?_eq (line : Text) : fieldLine? line = (docLine? line).bind DocLine.asField? :=
  tagBody?_bind (fun _ => rfl) DocLine.asField?_ofTag line

theorem aliasLine?_eq (line : Text) : aliasLine? line = (docLine? line).bind DocLine.asAlias? :=
  tagBody?_bind (fun _ => rfl) DocLine.asAlias?_ofTag line

theorem hides_iff (line : Text) : Hides line ↔ docLine? line = some .hidden := by
  cases hs : docText? line with
  | none =>
    have hbody : ∀ tag, tagBody? tag line = none := fun tag => by
      rw [tagBody?, hs]
      rfl
    rw [Hides, hbody, hbody, docLine?, hs]
    simp
  | some s =>
    rw [docLine?_of_docText? hs, DocLine.ofText, Option.some_inj]
    split
    · next t ht =>
      rw [DocLine.ofTag_eq_hidden_iff, Hides, tagBody?_of_trim hs ht, tagBody?_of_trim hs ht, Option.isSome_ite, Option.isSome_ite]
    · next ht =>
      have hbody := tagBody?_of_text hs ht
      rw [Hides, hbody, hbody]
      simp

/-! ### Types -/

/-- The fields that come before the next class. -/
def fieldsBefore (run : List Text) : List FieldDoc := (run.takeWhile (classLine? · |>.isNone)).filterMap fieldLine?

/-- The classes that a run of documentation declares, each with the fields that follow it before the next one. -/
def classesIn (run : List Text) : List ClassDoc :=
  run.tails.filterMap fun
    | [] => none
    | line :: rest => (classLine? line).map fun (name, parent) => ⟨name, parent, fieldsBefore rest⟩

variable {run : List Text}

theorem fieldsBefore_cons : fieldsBefore (line :: run) =
    if (classLine? line).isNone then (fieldLine? line).toList ++ fieldsBefore run else [] := by
  rw [fieldsBefore, List.takeWhile_cons]
  split
  · rw [List.filterMap_cons]
    cases fieldLine? line <;> rfl
  · rfl

theorem classesIn_cons : classesIn (line :: run) =
    ((classLine? line).map fun (name, parent) => ClassDoc.mk name parent (fieldsBefore run)).toList ++ classesIn run := by
  cases h : classLine? line <;> simp [classesIn, List.tails, h]

/-- The class that is being read gets the fields before the next one, which then is read. -/
theorem classes_go_block {current : Option ClassDoc} : DocBlock.classes.go current (block run) =
    (current.map fun k => { k with fields := k.fields ++ fieldsBefore run }).toList ++ classesIn run := by
  induction run generalizing current with
  | nil => cases current <;> simp [block, DocBlock.classes.go, classesIn, fieldsBefore]
  | cons line run ih =>
    rw [classesIn_cons, fieldsBefore_cons, classLine?_eq, fieldLine?_eq, block, List.filterMap_cons]
    cases docLine? line with
    | none => exact ih
    | some l =>
      show DocBlock.classes.go current (l :: block run) = _
      cases l with
      | classHead name parent =>
        rw [DocBlock.classes.go, ih]
        cases current <;> simp [DocLine.asClass?]
      | field f =>
        rw [DocBlock.classes.go, ih]
        cases current <;> simp [DocLine.asClass?, DocLine.asField?]
      | _ => simp [DocBlock.classes.go, ih, DocLine.asClass?, DocLine.asField?]

theorem classes_block : DocBlock.classes (block run) = classesIn run := by
  rw [DocBlock.classes, classes_go_block]
  rfl

theorem aliases_block : DocBlock.aliases (block run) = run.filterMap aliasLine? := by
  have hasAlias : DocBlock.aliases (block run) = (block run).filterMap DocLine.asAlias? := rfl
  rw [hasAlias, block, List.filterMap_filterMap]
  exact List.filterMap_congr fun line _ => (aliasLine?_eq line).symm

theorem hidden_mem_block_iff : .hidden ∈ block run ↔ ∃ line ∈ run, Hides line := by
  rw [block, List.mem_filterMap]
  exact exists_congr fun line => and_congr_right fun _ => (hides_iff line).symm

/-! ### Functions -/

theorem isSome_document?_iff {ls : List DocLine} {f : FunctionDoc} :
    (DocBlock.document? ls f).isSome ↔ .hidden ∉ ls := by
  rw [DocBlock.document?]
  split <;> simp_all

/-! ### Sources -/

/-- The name of a field, behind a word that says who can see it. -/
def fieldName (body : Text) : Text :=
  if body.splitWord.1 = "public" ∨ body.splitWord.1 = "package" then body.splitWord.2.splitWord.1 else body.splitWord.1

/-- Not everyone can see the field, or it has no name of its own. -/
def IsPassedOver (body : Text) : Prop :=
  body.splitWord.1 = "private" ∨ body.splitWord.1 = "protected" ∨ fieldName body = [] ∨ (fieldName body).head? = some '['

theorem field?_eq_none_iff {body : Text} : DocLine.field? body = none ↔ IsPassedOver body := by
  rw [DocLine.field?, IsPassedOver, fieldName]
  generalize body.splitWord = w
  obtain ⟨first, rest⟩ := w
  dsimp only
  by_cases hseen : first = "private" ∨ first = "protected"
  · rw [if_pos hseen]
    exact iff_of_true rfl (hseen.elim .inl fun h => .inr (.inl h))
  · rw [if_neg hseen]
    rw [not_or] at hseen
    rw [or_iff_right hseen.1, or_iff_right hseen.2]
    by_cases hword : first = "public" ∨ first = "package"
    · simp only [if_pos hword]
      rw [ite_eq_left_iff]
      simp [or_iff_not_imp_left]
    · simp only [if_neg hword]
      rw [ite_eq_left_iff]
      simp [or_iff_not_imp_left]

/-- The line defines a function, and the lines of documentation right before it do not hide that. -/
def IsPublic (lines : List Text) (i : Nat) : Prop :=
  ∃ line, IsSubject lines i line ∧ (∃ d : LuaDefinition, d.IsWritten (LuaDefinition.wrapped line (lines.drop (i + 1)))) ∧
    ¬ LuaDefinition.IsLocal (LuaDefinition.wrapped line (lines.drop (i + 1))) ∧ ∀ l ∈ runBefore lines i, ¬ Hides l

namespace LuaSource

variable {lines : List Text} {i : Nat}

/-- What is read off the lines of a source. The numbers of lines count from one. -/
structure IsReading (lines : List Text) (r : LuaSource) : Prop where
  ascending : r.functions.Pairwise (·.line < ·.line)
  line_iff : ∀ n, (∃ f ∈ r.functions, f.line = n) ↔ ∃ i, n = i + 1 ∧ IsPublic lines i
  described : ∀ f ∈ r.functions, ∃ i line, ∃ d : LuaDefinition, IsSubject lines i line ∧
    d.IsWritten (LuaDefinition.wrapped line (lines.drop (i + 1))) ∧
    DocBlock.document? (block (runBefore lines i)) { d.function with line := i + 1 } = some f
  classes : r.classes = (docRuns lines).flatMap classesIn
  aliases : r.aliases = (docRuns lines).flatMap (List.filterMap aliasLine?)
  fields : ∀ line body, tagBody? "field" line = some body → (fieldLine? line = none ↔ IsPassedOver body)

theorem mem_functions_ofLines {f : FunctionDoc} :
    f ∈ (ofLines lines).functions ↔ ∃ i, (commentAt lines i).bind function? = some f := by
  rw [functions_ofLines, List.mem_filterMap]
  constructor
  · rintro ⟨i, -, hf⟩
    exact ⟨i, hf⟩
  · rintro ⟨i, hf⟩
    obtain ⟨line, d, hline, -, -⟩ := commentAt_bind_eq_some_iff.mp hf
    exact ⟨i, List.mem_range.mpr (List.getElem?_eq_some_iff.mp hline.here).1, hf⟩

/-- A line has a function if it defines one that is not hidden. -/
theorem isPublic_iff : IsPublic lines i ↔ ((commentAt lines i).bind function?).isSome := by
  rw [Option.isSome_iff_exists]
  constructor
  · rintro ⟨line, hline, hwritten, -, hhides⟩
    obtain ⟨d, hd⟩ := Option.isSome_iff_exists.mp (LuaDefinition.isSome_ofText?_iff.mpr hwritten)
    have hhidden : .hidden ∉ block (runBefore lines i) := by
      rw [hidden_mem_block_iff]
      rintro ⟨l, hl, hhide⟩
      exact hhides l hl hhide
    obtain ⟨f, hf⟩ := Option.isSome_iff_exists.mp (isSome_document?_iff (f := { d.function with line := i + 1 }).mpr hhidden)
    exact ⟨f, commentAt_bind_eq_some_iff.mpr ⟨line, d, hline, hd, hf⟩⟩
  · rintro ⟨f, hf⟩
    obtain ⟨line, d, hline, hd, hdoc⟩ := commentAt_bind_eq_some_iff.mp hf
    have hwritten := LuaDefinition.isWritten_of_ofText? hd
    have hhidden := isSome_document?_iff.mp (Option.isSome_of_eq_some hdoc)
    rw [hidden_mem_block_iff] at hhidden
    exact ⟨line, hline, ⟨d, hwritten⟩, hwritten.not_isLocal, fun l hl hhide => hhidden ⟨l, hl, hhide⟩⟩

theorem isReading_ofLines (lines : List Text) : IsReading lines (ofLines lines) where
  ascending := by
    rw [functions_ofLines]
    refine List.Pairwise.filterMap _ (fun i j hij f hf g hg => ?_) List.pairwise_lt_range
    rw [line_of_commentAt hf, line_of_commentAt hg]
    omega
  line_iff n := by
    constructor
    · rintro ⟨f, hf, rfl⟩
      obtain ⟨i, hi⟩ := mem_functions_ofLines.mp hf
      exact ⟨i, line_of_commentAt hi, isPublic_iff.mpr (Option.isSome_of_eq_some hi)⟩
    · rintro ⟨i, rfl, hpublic⟩
      obtain ⟨f, hf⟩ := Option.isSome_iff_exists.mp (isPublic_iff.mp hpublic)
      exact ⟨f, mem_functions_ofLines.mpr ⟨i, hf⟩, line_of_commentAt hf⟩
  described f hf := by
    obtain ⟨i, hi⟩ := mem_functions_ofLines.mp hf
    obtain ⟨line, d, hline, hd, hdoc⟩ := commentAt_bind_eq_some_iff.mp hi
    exact ⟨i, line, d, hline, LuaDefinition.isWritten_of_ofText? hd, hdoc⟩
  classes := by simp only [classes_ofLines, classes_block]
  aliases := by simp only [aliases_ofLines, aliases_block]
  fields line body h := by
    rw [fieldLine?, h, Option.bind_some, field?_eq_none_iff]

/-- Read off a text are the functions that it documents and does not hide, and all types. -/
theorem ofText_isReading (s : Text) : IsReading s.bareLines (ofText s) := isReading_ofLines s.bareLines

/-- A field that everyone can see is passed over if it has a key in brackets for a name. -/
theorem ofText_classes_of_key :
    let s : Text := "---@class A\n---@field [string] integer\n"
    s.bareLines = ["---@class A".toList, "---@field [string] integer".toList] ∧
      tagBody? "field" "---@field [string] integer" = some "[string] integer" ∧
      (Text.splitWord "[string] integer").1 ∉ ["private".toList, "protected".toList] ∧
      (ofText s).classes = [⟨"A", none, []⟩] := by
  decide +kernel

end LuaSource
end PluginManual
