import PluginManual.Proofs.Wrapping

/-! Comments of Lua between the parentheses of a definition. The lines of a list of parameters are joined as they
    stand, and the text of a comment is read as more parameters. All else of the function stays as it is, but its
    parameters never do. -/

namespace PluginManual

/-! ### Parameters of a function with documentation -/

namespace DocBlock

variable {ls : List DocLine} {f g : FunctionDoc}

/-- Parameters keep their names when one of them is described. -/
theorem map_name_describe (p : ParamDoc) (qs : List ParamDoc) : (describe p qs).map (·.name) = qs.map (·.name) := by
  induction qs with
  | nil => rfl
  | cons q qs ih =>
    rw [describe]
    split
    · next h => rw [List.map_cons, List.map_cons, h]
    · rw [List.map_cons, List.map_cons, ih]

/-- Nothing but the parameters comes of the parameters. -/
theorem foldl_read_withParams (r : Reading) (ps : List ParamDoc) (ls : List DocLine) : ∃ qs : List ParamDoc,
    qs.map (·.name) = ps.map (·.name) ∧
      ls.foldl read { r with function.params := ps } = { ls.foldl read r with function.params := qs } := by
  induction ls generalizing r ps with
  | nil => exact ⟨ps, rfl, rfl⟩
  | cons l ls ih =>
    have hread : ∃ qs : List ParamDoc, qs.map (·.name) = ps.map (·.name) ∧
        read { r with function.params := ps } l = { read r l with function.params := qs } := by
      cases l with
      | param p => exact ⟨describe p ps, map_name_describe p ps, rfl⟩
      | text s =>
        refine ⟨ps, rfl, ?_⟩
        rw [read, read]
        split
        · rfl
        · split <;> rfl
      | _ => exact ⟨ps, rfl, rfl⟩
    obtain ⟨qs, hqs, hread⟩ := hread
    obtain ⟨qs', hqs', hfold⟩ := ih (read r l) qs
    refine ⟨qs', hqs'.trans hqs, ?_⟩
    rw [List.foldl_cons, List.foldl_cons, hread, hfold]

theorem document?_withParams (h : document? ls f = some g) (ps : List ParamDoc) : ∃ qs : List ParamDoc,
    qs.map (·.name) = ps.map (·.name) ∧ document? ls { f with params := ps } = some { g with params := qs } := by
  rw [document?] at h
  split at h
  · cases h
  · next hshown =>
    obtain ⟨qs, hqs, hfold⟩ := foldl_read_withParams { function := f } ps ls
    refine ⟨qs, hqs, ?_⟩
    obtain rfl := Option.some.inj h
    dsimp only at hfold
    rw [document?, if_neg hshown, hfold]

theorem map_name_of_document? (h : document? ls f = some g) : g.params.map (·.name) = f.params.map (·.name) := by
  obtain ⟨qs, hqs, hdocument⟩ := document?_withParams h f.params
  have hg : g = { g with params := qs } := Option.some.inj (h.symm.trans hdocument)
  rw [hg, hqs]

end DocBlock

/-! ### Comments -/

open Text

/-- The second text is the first one with a comment before one of its line breaks: at the end of a line, or on a line
    of its own. -/
inductive IsCommented : Text → Text → Prop where
  | intro {a gap note b : Text} (hgap : ∀ c ∈ gap, isBlank c = true) (hnote : OneLine note)
    (hbreak : "\n".toList <+: b ∨ "\r\n".toList <+: b) :
    IsCommented (a ++ b) (a ++ (gap ++ ("--".toList ++ (note ++ b))))

namespace Signature
open LuaComment LuaDefinition

variable {p : Signature} {d : LuaDefinition} {inner commented : Text}

theorem map_name_function (d : LuaDefinition) : d.function.params.map (·.name) = d.args := by
  simp [LuaDefinition.function, Function.comp_def]

theorem map_name_of_function? {f : FunctionDoc} (h : p.function? d = some f) : f.params.map (·.name) = d.args :=
  (DocBlock.map_name_of_document? h).trans (map_name_function d)

/-- With other names between the parentheses the function has these parameters, and all else is the same. -/
theorem function?_withArgs {f : FunctionDoc} (h : p.function? d = some f) (args : List Text) :
    ∃ params, p.function? { d with args } = some { f with params } ∧ params.map (·.name) = args := by
  obtain ⟨params, hnames, hdocument⟩ := DocBlock.document?_withParams h { d with args }.function.params
  exact ⟨params, hdocument, hnames.trans (map_name_function _)⟩

/-- A comment is not told from parameters: with it, one of them has a hyphen in its name. -/
theorem exists_functions_commented (h : p.IsOf d) (hinner : ')' ∉ inner) (hcomment : IsCommented inner commented) :
    ∃ args : List Text, (∃ arg ∈ args, '-' ∈ arg) ∧
      (LuaSource.ofText (p.toText commented)).functions.filter (·.line = p.line) = (p.function? { d with args }).toList := by
  obtain ⟨hgap, hnote, hbreak⟩ := hcomment
  rename_i a gap note b
  -- The parameters are read as far as the first closing parenthesis, which may belong to the comment.
  have hmem : ')' ∈ note ++ (b ++ ')' :: p.after) := by simp
  obtain ⟨v, after, hcut, hv⟩ := List.eq_append_cons_of_mem hmem
  have hblank : ')' ∉ gap := fun hmem => absurd (hgap _ hmem) (by decide)
  have hu : ')' ∉ a ++ (gap ++ ("--".toList ++ v)) := by
    have ha : ')' ∉ a := fun hmem => hinner (List.mem_append_left b hmem)
    simp [ha, hblank, hv]
  have htext : p.toText (a ++ (gap ++ ("--".toList ++ (note ++ b)))) =
      { p with after }.toText (a ++ (gap ++ ("--".toList ++ v))) := by
    simp only [toText, List.append_assoc, hcut]
  have hof : { p with after }.IsOf d := ⟨h.ends, h.documented, h.indent, h.head⟩
  obtain ⟨read, htokens, hfunctions⟩ := functions_at_line hof hu
  have hhyphen : '-' ∈ read := mem_of_tokens_eq htokens.symm (by decide) (by decide) (by simp)
  exact ⟨argNames read, exists_mem_argNames hhyphen (by decide) (by decide), htext ▸ hfunctions⟩

/-- A comment in a list of parameters leaves nothing of a function but the parameters changed, and always changes
    these: one of them gets a name that is none of Lua. -/
theorem functions_of_isCommented (h : p.IsOf d) (hparams : ∀ arg ∈ d.args, IsParam arg) (hinner : IsListing d.args inner)
    (hcomment : IsCommented inner commented) :
    let plain := (LuaSource.ofText (p.toText inner)).functions.filter (·.line = p.line)
    let functions := (LuaSource.ofText (p.toText commented)).functions.filter (·.line = p.line)
    (functions = plain ↔ .hidden ∈ block p.run) ∧
      ∀ f ∈ plain, f.params.map (·.name) = d.args ∧
        ∃ params, functions = [{ f with params }] ∧ ∃ q ∈ params, ¬ IsParam q.name := by
  intro plain functions
  have hplain : plain = (p.function? d).toList := functions_at_line_of_isListing h hparams hinner
  obtain ⟨args, ⟨arg, harg, hhyphen⟩, hfunctions⟩ : ∃ args : List Text, (∃ arg ∈ args, '-' ∈ arg) ∧
      functions = (p.function? { d with args }).toList :=
    exists_functions_commented h (hinner.not_mem hparams (by decide)) hcomment
  have hchanged : ∀ f, p.function? d = some f →
      ∃ params, functions = [{ f with params }] ∧ ∃ q ∈ params, ¬ IsParam q.name := by
    intro f hf
    obtain ⟨params, hread, hnames⟩ := function?_withArgs hf args
    obtain ⟨q, hq, rfl⟩ : ∃ q ∈ params, q.name = arg := List.mem_map.mp (hnames ▸ harg)
    refine ⟨params, by rw [hfunctions, hread, Option.toList_some], q, hq, fun hparam => ?_⟩
    exact absurd (hparam.char _ hhyphen) (by decide)
  refine ⟨⟨fun hsame => ?_, fun hhidden => ?_⟩, fun f hf => ?_⟩
  · -- Were the function shown, a parameter of it had a name that is none.
    by_contra hshown
    obtain ⟨f, hf⟩ : ∃ f, p.function? d = some f := ⟨_, if_neg hshown⟩
    obtain ⟨params, hread, q, hq, hparam⟩ := hchanged f hf
    rw [hread, hplain, hf] at hsame
    have hsame : params = f.params := congrArg FunctionDoc.params (List.singleton_inj.mp hsame)
    have hname : q.name ∈ d.args := by
      rw [← map_name_of_function? hf, ← hsame]
      exact List.mem_map_of_mem hq
    exact hparam (hparams _ hname)
  · have hnone : ∀ d, p.function? d = none := fun d => if_pos hhidden
    rw [hplain, hfunctions, hnone, hnone]
  · rw [hplain] at hf
    have hf := Option.mem_toList.mp hf
    exact ⟨map_name_of_function? hf, hchanged f hf⟩

/-- A comment on a line of its own, with a parenthesis that ends the parameters. -/
theorem functions_of_isCommented_of_paren :
    let p : Signature := ⟨"--- Opens.\n", [], "function M.open", "\nend\n"⟩
    let d : LuaDefinition := ⟨"open", some "M".toList, false, ["a", "b"]⟩
    let inner : Text := "\n  a,\n  b\n"
    let commented : Text := "\n  a,\n  -- two), or\n  b\n"
    let plain := (LuaSource.ofText (p.toText inner)).functions.filter (·.line = p.line)
    let functions := (LuaSource.ofText (p.toText commented)).functions.filter (·.line = p.line)
    p.IsOf d ∧ (∀ arg ∈ d.args, IsParam arg) ∧ IsListing d.args inner ∧ IsCommented inner commented ∧
      (functions = plain ↔ .hidden ∈ block p.run) ∧
      (∀ f ∈ plain, f.params.map (·.name) = d.args ∧
        ∃ params, functions = [{ f with params }] ∧ ∃ q ∈ params, ¬ IsParam q.name) ∧
      .hidden ∉ block p.run ∧ functions.map (·.params) = [[⟨"a", "any", []⟩, ⟨"-- two", "any", []⟩]] := by
  intro p d inner commented plain functions
  have hof : p.IsOf d := by
    refine ⟨rfl, by decide +kernel, by simp [p], ?_⟩
    have htarget : IsTarget (some "M".toList) false "open".toList "M.open".toList :=
      .field ⟨⟨'M', rfl, by decide⟩, List.all_eq_true.mp (by decide)⟩ (by decide)
    have hhead : IsHead d ("function".toList ++ (" ".toList ++ ("M.open".toList ++ []))) :=
      .function (by decide) htarget (by simp)
    exact hhead
  have hparams : ∀ arg ∈ d.args, IsParam arg := by decide
  have hlisting : IsListing d.args inner :=
    isListing_of_tokens (fun arg harg => (hparams arg harg).isItem) (by decide +kernel)
  have hcommented : IsCommented ("\n  a,".toList ++ "\n  b\n".toList)
      ("\n  a,".toList ++ ("\n  ".toList ++ ("--".toList ++ (" two), or".toList ++ "\n  b\n".toList)))) :=
    .intro (isBlank_iff.mp (by decide)) (by decide) (by decide)
  obtain ⟨hsame, hplain⟩ := functions_of_isCommented hof hparams hlisting hcommented
  exact ⟨hof, hparams, hlisting, hcommented, hsame, hplain, by decide +kernel, by decide +kernel⟩

/-- A comment at the end of a line becomes the beginning of a name, and the description of the parameter is lost. -/
theorem functions_ne_of_comment :
    let p : Signature := ⟨"---@param b integer\n", [], "function M.f", "\nend\n"⟩
    let plain := (LuaSource.ofText (p.toText "a,\n  b")).functions
    let functions := (LuaSource.ofText (p.toText "a, -- first\n  b")).functions
    IsCommented "a,\n  b" "a, -- first\n  b" ∧ functions ≠ plain ∧
      plain.map (·.params) = [[⟨"a", "any", []⟩, ⟨"b", "integer", []⟩]] ∧
      functions.map (·.params) = [[⟨"a", "any", []⟩, ⟨"-- first b", "any", []⟩]] := by
  intro p plain functions
  have hcommented : IsCommented ("a,".toList ++ "\n  b".toList)
      ("a,".toList ++ (" ".toList ++ ("--".toList ++ (" first".toList ++ "\n  b".toList)))) :=
    .intro (isBlank_iff.mp (by decide)) (by decide) (by decide)
  exact ⟨hcommented, by decide +kernel, by decide +kernel, by decide +kernel⟩

end Signature
end PluginManual
