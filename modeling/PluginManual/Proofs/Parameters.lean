import PluginManual.Proofs.ListComments
import PluginManual.Proofs.Tags

/-! Parameters and returned values of a function with documentation. The names of the parameters are those between the
    parentheses of the definition. The comment describes them and adds none: of several lines for one name the last
    one counts, and of several parameters with one name the first one is described. -/

namespace PluginManual
open LuaComment

/-! ### Parentheses -/

namespace LuaDefinition

variable {d : LuaDefinition} {s : Text}

/-- What stands between the first opening parenthesis and the next closing one. -/
inductive IsEnclosed (inner : Text) : Text → Prop where
  | intro {head after : Text} (hhead : '(' ∉ head) (hinner : ')' ∉ inner) :
    IsEnclosed inner (head ++ '(' :: (inner ++ ')' :: after))

theorem IsEnclosed.behind {inner head : Text} (h : IsEnclosed inner s) (hhead : '(' ∉ head) :
    IsEnclosed inner (head ++ s) := by
  obtain ⟨hbefore, hinner⟩ := h
  rw [← List.append_assoc]
  exact .intro (List.not_mem_append hhead hbefore) hinner

theorem not_paren_of_blank (h : ∀ c ∈ s, isBlank c = true) : '(' ∉ s := fun hmem => absurd (h '(' hmem) (by decide)

theorem not_paren_of_inRun (h : ∀ c ∈ s, inRun c = true) : '(' ∉ s := fun hmem => absurd (h '(' hmem) (by decide)

theorem IsArgs.exists_isEnclosed {args : List Text} (h : IsArgs args s) :
    ∃ inner, IsEnclosed inner s ∧ args = argNames inner := by
  obtain ⟨hblanks, hinner, hargs⟩ := h
  exact ⟨_, .intro (not_paren_of_blank hblanks) hinner, hargs⟩

/-- The parameters of a definition stand between its first parentheses. -/
theorem IsWritten.exists_isEnclosed (h : IsWritten d s) : ∃ inner, IsEnclosed inner s ∧ d.args = argNames inner := by
  cases h with
  | @function blanks target args _ hblanks htarget _ hargs =>
    obtain ⟨inner, hinner, heq⟩ := hargs.exists_isEnclosed
    have htarget : '(' ∉ target := fun hmem => (htarget.char '(' hmem).elim (absurd · (by decide)) (absurd · (by decide))
    exact ⟨inner, ((hinner.behind htarget).behind (not_paren_of_blank hblanks)).behind (by decide), heq⟩
  | @assignment table blanks blanks' args _ _ hrun hname _ hblanks hblanks' hargs =>
    obtain ⟨inner, hinner, heq⟩ := hargs.exists_isEnclosed
    have htarget := not_paren_of_inRun ((isRun_append_iff hname).mpr hrun).2
    have hassigned := (hinner.behind (by decide : '(' ∉ "function".toList)).behind (not_paren_of_blank hblanks')
    have hequals := hassigned.behind (by decide : '(' ∉ ['='])
    exact ⟨inner, (hequals.behind (not_paren_of_blank hblanks)).behind htarget, heq⟩

end LuaDefinition

/-! ### Descriptions -/

namespace DocBlock

variable {r : Reading} {l : DocLine} {ls : List DocLine} {p q : ParamDoc} {qs docs before after : List ParamDoc} {name : Text}

/-- The last description of a parameter with this name. -/
def lastFor? (name : Text) (docs : List ParamDoc) : Option ParamDoc := (docs.filter (·.name = name)).getLast?

theorem lastFor?_cons : lastFor? name (p :: docs) =
    if p.name = name then some ((lastFor? name docs).getD p) else lastFor? name docs := by
  by_cases h : p.name = name <;> simp [lastFor?, h, List.getLast?_cons]

theorem lastFor?_eq_none_iff : lastFor? name docs = none ↔ ∀ doc ∈ docs, doc.name ≠ name := by
  simp [lastFor?]

theorem describe_append : describe p (before ++ qs) =
    if p.name ∈ before.map (·.name) then describe p before ++ qs else before ++ describe p qs := by
  induction before with
  | nil => rfl
  | cons b before ih =>
    by_cases hb : b.name = p.name
    · simp [describe, hb]
    · have hcons : p.name ∈ (b :: before).map (·.name) ↔ p.name ∈ before.map (·.name) := by simp [Ne.symm hb]
      simp only [List.cons_append, describe, if_neg hb, ih, hcons]
      split <;> rfl

/-- One description changes a parameter if it is for this name and no parameter before has the name. -/
theorem exists_describe_append (p q : ParamDoc) (before after : List ParamDoc) : ∃ before' after',
    describe p (before ++ q :: after) = before' ++ (if p.name = q.name ∧ q.name ∉ before.map (·.name) then p else q) :: after' ∧
      before'.map (·.name) = before.map (·.name) ∧ after'.map (·.name) = after.map (·.name) := by
  rw [describe_append]
  by_cases hmem : p.name ∈ before.map (·.name)
  · rw [if_pos hmem, if_neg fun h => h.2 (h.1 ▸ hmem)]
    exact ⟨describe p before, after, rfl, map_name_describe p before, rfl⟩
  · rw [if_neg hmem, describe]
    by_cases hname : q.name = p.name
    · rw [if_pos hname, if_pos ⟨hname.symm, hname ▸ hmem⟩]
      exact ⟨before, after, rfl, rfl, rfl⟩
    · rw [if_neg hname, if_neg fun h => hname h.1.symm]
      exact ⟨before, describe p after, rfl, rfl, map_name_describe p after⟩

/-- The parameters with one description after the other. -/
def describeAll (docs qs : List ParamDoc) : List ParamDoc := docs.foldl (fun qs p => describe p qs) qs

theorem describeAll_cons : describeAll (p :: docs) qs = describeAll docs (describe p qs) := rfl

/-- After all descriptions the first parameter of a name is the last one for this name, and all others are as before. -/
theorem exists_describeAll (docs : List ParamDoc) (q : ParamDoc) (before after : List ParamDoc) : ∃ before' after',
    describeAll docs (before ++ q :: after) =
        before' ++ (if q.name ∈ before.map (·.name) then q else (lastFor? q.name docs).getD q) :: after' ∧
      before'.map (·.name) = before.map (·.name) ∧ after'.map (·.name) = after.map (·.name) := by
  induction docs generalizing q before after with
  | nil =>
    refine ⟨before, after, ?_, rfl, rfl⟩
    show before ++ q :: after = _
    split <;> rfl
  | cons p docs ih =>
    obtain ⟨before₁, after₁, hstep, hbefore₁, hafter₁⟩ := exists_describe_append p q before after
    rw [describeAll_cons, hstep, lastFor?_cons]
    by_cases hchange : p.name = q.name ∧ q.name ∉ before.map (·.name)
    · obtain ⟨before', after', hfold, hbefore', hafter'⟩ := ih p before₁ after₁
      refine ⟨before', after', ?_, hbefore'.trans hbefore₁, hafter'.trans hafter₁⟩
      rw [if_pos hchange, hfold, hbefore₁, hchange.1, if_neg hchange.2, if_neg hchange.2, if_pos rfl, Option.getD_some]
    · obtain ⟨before', after', hfold, hbefore', hafter'⟩ := ih q before₁ after₁
      refine ⟨before', after', ?_, hbefore'.trans hbefore₁, hafter'.trans hafter₁⟩
      rw [if_neg hchange, hfold, hbefore₁]
      by_cases hmem : q.name ∈ before.map (·.name)
      · rw [if_pos hmem, if_pos hmem]
      · rw [if_neg hmem, if_neg hmem, if_neg fun h => hchange ⟨h, hmem⟩]

/-- What a definition says of a parameter: its name. -/
def undescribed (name : Text) : ParamDoc := { name, type := "any" }

theorem map_name_describeAll (docs qs : List ParamDoc) :
    (describeAll docs qs).map (·.name) = qs.map (·.name) := by
  induction docs generalizing qs with
  | nil => rfl
  | cons p docs ih => rw [describeAll_cons, ih, map_name_describe]

theorem eq_of_describeAll {names : List Text}
    (h : describeAll docs (names.map undescribed) = before ++ p :: after) :
    p = if p.name ∈ before.map (·.name) then undescribed p.name else (lastFor? p.name docs).getD (undescribed p.name) := by
  have hundescribed : ∀ names : List Text, (names.map undescribed).map (·.name) = names := fun names => by
    simp [undescribed, Function.comp_def]
  have hnames : names = before.map (·.name) ++ p.name :: after.map (·.name) := by
    rw [← hundescribed names, ← map_name_describeAll docs, h, List.map_append, List.map_cons]
  rw [hnames, List.map_append, List.map_cons] at h
  obtain ⟨before', after', hfold, hbefore, -⟩ := exists_describeAll docs (undescribed p.name)
    ((before.map (·.name)).map undescribed) ((after.map (·.name)).map undescribed)
  rw [hundescribed] at hfold hbefore
  have hlength : before'.length = before.length := by simpa using congrArg List.length hbefore
  have hp := (List.append_inj (h.symm.trans hfold) hlength.symm).2
  exact (List.cons.inj hp).1

/-! ### Blocks -/

theorem params_read (r : Reading) (l : DocLine) :
    (read r l).function.params = l.asParam?.elim r.function.params (describe · r.function.params) := by
  cases l with
  | text s =>
    rw [read]
    split
    · rfl
    · split <;> rfl
  | _ => rfl

theorem returns_read (r : Reading) (l : DocLine) :
    (read r l).function.returns = r.function.returns ++ l.asReturn?.toList := by
  cases l with
  | text s =>
    rw [read]
    split
    · exact (List.append_nil _).symm
    · split <;> exact (List.append_nil _).symm
  | returns v => rfl
  | _ => exact (List.append_nil _).symm

theorem params_foldl_read (r : Reading) (ls : List DocLine) : (ls.foldl read r).function.params =
    describeAll (ls.filterMap DocLine.asParam?) r.function.params := by
  induction ls generalizing r with
  | nil => rfl
  | cons l ls ih =>
    rw [List.foldl_cons, ih, params_read, List.filterMap_cons]
    cases l.asParam? <;> rfl

theorem returns_foldl_read (r : Reading) (ls : List DocLine) :
    (ls.foldl read r).function.returns = r.function.returns ++ ls.filterMap DocLine.asReturn? := by
  induction ls generalizing r with
  | nil => exact (List.append_nil _).symm
  | cons l ls ih =>
    rw [List.foldl_cons, ih, returns_read, List.filterMap_cons, List.append_assoc]
    cases l.asReturn? <;> rfl

theorem params_of_document? {f g : FunctionDoc} {run : List Text} (h : document? (block run) f = some g) :
    g.params = describeAll (run.filterMap paramLine?) f.params := by
  rw [eq_of_document? h, params_foldl_read, filterMap_block paramLine?_eq]

theorem returns_of_document? {f g : FunctionDoc} {run : List Text} (h : document? (block run) f = some g) :
    g.returns = f.returns ++ run.filterMap returnLine? := by
  rw [eq_of_document? h, returns_foldl_read, filterMap_block returnLine?_eq]

end DocBlock

/-! ### Lines -/

/-- The parameter that a word names and a text describes. A question mark behind the name does not belong to it, and the
    type then admits `nil`. -/
inductive IsParamOf (type description : Text) : Text → ParamDoc → Prop where
  | plain {name : Text} (hlast : name.getLast? ≠ some '?') : IsParamOf type description name ⟨name, type, description⟩
  | nullable (name : Text) : IsParamOf type description (name ++ ['?']) ⟨name, DocLine.withNil type, description⟩

theorem isParamOf_optional (type description word : Text) : IsParamOf type description word
    ⟨(DocLine.optional word type).1, (DocLine.optional word type).2, description⟩ := by
  by_cases hlast : word.getLast? = some '?'
  · obtain ⟨name, rfl⟩ := List.getLast?_eq_some_iff.mp hlast
    rw [DocLine.optional_question]
    exact .nullable name
  · rw [DocLine.optional_of_getLast? hlast]
    exact .plain hlast

/-- A line describes a parameter if it names one. -/
theorem paramLine?_of_tagBody? {line body : Text} (h : tagBody? "param" line = some body) :
    if body.splitWord.1 = [] then paramLine? line = none
    else ∃ p, paramLine? line = some p ∧
      IsParamOf (TypeExpr.split body.splitWord.2).1 (TypeExpr.split body.splitWord.2).2 body.splitWord.1 p := by
  rw [paramLine?, h, Option.bind_some, DocLine.param?]
  split
  · next hempty => exact if_pos (List.isEmpty_iff.mpr hempty)
  · next hne => exact ⟨_, if_neg (mt List.isEmpty_iff.mp hne), isParamOf_optional _ _ _⟩

/-- A line tells of a returned value if it gives a type. -/
theorem map_type_returnLine? {line body : Text} (h : tagBody? "return" line = some body) :
    (returnLine? line).map (·.type) = if (TypeExpr.split body).1 = [] then none else some (TypeExpr.split body).1 := by
  rw [returnLine?, h, Option.bind_some, DocLine.returns?]
  dsimp only
  by_cases hempty : (TypeExpr.split body).1 = []
  · rw [if_pos hempty, if_pos (List.isEmpty_iff.mpr hempty)]
    rfl
  · rw [if_neg hempty, if_neg (mt List.isEmpty_iff.mp hempty)]
    split
    · rfl
    · split <;> rfl

/-! ### Functions -/

namespace LuaSource
open DocBlock LuaDefinition

/-- The parameters of a function and its returned values, with the names between its parentheses and the lines of
    documentation right before it. -/
structure IsDescribed (run : List Text) (names : List Text) (f : FunctionDoc) : Prop where
  names : f.params.map (·.name) = names
  /-- The last line for its name describes the first parameter of this name. -/
  first : ∀ before p after, f.params = before ++ p :: after → p.name ∉ before.map (·.name) →
    ∀ doc ∈ lastFor? p.name (run.filterMap paramLine?), p = doc
  /-- A parameter is not described if one before has its name, or if no line is for its name. -/
  other : ∀ before p after, f.params = before ++ p :: after →
    (p.name ∈ before.map (·.name) ∨ ∀ line ∈ run, ∀ doc ∈ paramLine? line, doc.name ≠ p.name) → p = undescribed p.name
  returns : f.returns = run.filterMap returnLine?
  /-- A line is for a name if it gives one. -/
  named : ∀ line ∈ run, ∀ body, tagBody? "param" line = some body →
    if body.splitWord.1 = [] then paramLine? line = none
    else ∃ p, paramLine? line = some p ∧
      IsParamOf (TypeExpr.split body.splitWord.2).1 (TypeExpr.split body.splitWord.2).2 body.splitWord.1 p
  /-- A line tells of a returned value if it gives a type. -/
  typed : ∀ line ∈ run, ∀ body, tagBody? "return" line = some body → (returnLine? line).map (·.type) =
    if (TypeExpr.split body).1 = [] then none else some (TypeExpr.split body).1

theorem isDescribed_of_document? {d : LuaDefinition} {run : List Text} {n : Nat} {f : FunctionDoc}
    (h : document? (block run) { d.function with line := n } = some f) : IsDescribed run d.args f := by
  have hparams : f.params = describeAll (run.filterMap paramLine?) (d.args.map undescribed) :=
    params_of_document? h
  refine ⟨?_, fun before p after hsplit hfirst doc hdoc => ?_, fun before p after hsplit hother => ?_,
    returns_of_document? h, fun _ _ _ hbody => paramLine?_of_tagBody? hbody, fun _ _ _ hbody => map_type_returnLine? hbody⟩
  · rw [hparams, map_name_describeAll]
    simp [undescribed, Function.comp_def]
  · have hp := eq_of_describeAll (hparams.symm.trans hsplit)
    rwa [if_neg hfirst, hdoc, Option.getD_some] at hp
  · have hp := eq_of_describeAll (hparams.symm.trans hsplit)
    by_cases hmem : p.name ∈ before.map (·.name)
    · rwa [if_pos hmem] at hp
    · have hnone : lastFor? p.name (run.filterMap paramLine?) = none := by
        refine lastFor?_eq_none_iff.mpr fun doc hdoc => ?_
        obtain ⟨line, hline, hdoc⟩ := List.mem_filterMap.mp hdoc
        exact hother.resolve_left hmem line hline doc hdoc
      rwa [if_neg hmem, hnone, Option.getD_none] at hp

/-- The names of a function's parameters are those between the parentheses of its definition, whatever its comment says. -/
theorem ofText_isDescribed {s : Text} {f : FunctionDoc} (h : f ∈ (ofText s).functions) :
    ∃ i line inner, IsSubject s.bareLines i line ∧ f.line = i + 1 ∧
      IsEnclosed inner (wrapped line (s.bareLines.drop (i + 1))) ∧
        IsDescribed (runBefore s.bareLines i) (argNames inner) f := by
  obtain ⟨i, hi⟩ := mem_functions_ofLines.mp h
  obtain ⟨line, d, hline, hd, hdoc⟩ := commentAt_bind_eq_some_iff.mp hi
  obtain ⟨inner, hinner, hargs⟩ := (isWritten_of_ofText? hd).exists_isEnclosed
  exact ⟨i, line, inner, hline, line_of_commentAt hi, hinner, hargs ▸ isDescribed_of_document? hdoc⟩

/-- A parameter with two lines, one whose name comes twice, one without a line, and a line for no parameter. -/
theorem ofText_isDescribed_of_repeated :
    let s : Text := "---@param b? integer Second.\n---@param x string\n---@param a string\n---@param a number Last.\n" ++
      "---@return\n---@return boolean ok\nfunction M.f(a, b, c, a) end\n"
    let f : FunctionDoc := { name := "f", table := some "M", params := [⟨"a", "number", "Last."⟩,
      ⟨"b", "nil|integer", "Second."⟩, ⟨"c", "any", []⟩, ⟨"a", "any", []⟩], returns := [⟨"boolean", some "ok", []⟩], line := 7 }
    f ∈ (ofText s).functions ∧ ∃ i line inner, IsSubject s.bareLines i line ∧ f.line = i + 1 ∧
      IsEnclosed inner (wrapped line (s.bareLines.drop (i + 1))) ∧
        IsDescribed (runBefore s.bareLines i) (argNames inner) f := by
  intro s f
  have hmem : f ∈ (ofText s).functions := by decide +kernel
  exact ⟨hmem, ofText_isDescribed hmem⟩

end LuaSource
end PluginManual
