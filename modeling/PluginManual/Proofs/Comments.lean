import PluginManual.Lua.Source
import PluginManual.Proofs.Cuts
import PluginManual.Proofs.Lines

/-! What documentation comments leave in a function and in its types: texts without line feeds. Only a
    note may have several lines, one for each line of the comment that it comes from. -/

namespace PluginManual
open Text

/-! ### Texts of documentation -/

structure ParamDoc.IsOneLine (p : ParamDoc) : Prop where
  name : OneLine p.name
  type : OneLine p.type
  description : OneLine p.description

structure ReturnDoc.IsOneLine (r : ReturnDoc) : Prop where
  type : OneLine r.type
  name : ∀ name ∈ r.name, OneLine name
  description : OneLine r.description

structure FieldDoc.IsOneLine (f : FieldDoc) : Prop where
  name : OneLine f.name
  type : OneLine f.type
  description : OneLine f.description

def ClassDoc.IsOneLine (k : ClassDoc) : Prop := ∀ f ∈ k.fields, f.IsOneLine

/-- The texts of the function, its note aside, have no line feed. -/
structure FunctionDoc.IsOneLine (f : FunctionDoc) : Prop where
  name : OneLine f.name
  params : ∀ p ∈ f.params, p.IsOneLine
  returns : ∀ r ∈ f.returns, r.IsOneLine
  summary : ∀ s ∈ f.summary, OneLine s
  deprecated : ∀ s ∈ f.deprecated, OneLine s

/-! ### Lines of a comment -/

namespace DocLine

/-- The texts of the line have no line feed. -/
def IsOneLine : DocLine → Prop
  | text s | note s | deprecated s => OneLine s
  | param p => p.IsOneLine
  | returns r => r.IsOneLine
  | field f => f.IsOneLine
  | hidden | classHead _ _ | typeAlias _ | other => True

variable {s body : Text}

theorem without_subset (word s : Text) : without word s ⊆ s := by
  rw [without]
  cases h : word.isPrefixOf? s with
  | none => exact List.Subset.refl _
  | some rest => exact isPrefixOf?_subset h

theorem oneLine_optional {name type : Text} (hname : OneLine name) (htype : OneLine type) :
    OneLine (optional name type).1 ∧ OneLine (optional name type).2 := by
  rw [optional]
  split
  · next bare hbare =>
    have hsub : bare.reverse ⊆ name := fun c hc =>
      List.mem_reverse.mp (hbare ▸ List.mem_cons_of_mem _ (List.mem_reverse.mp hc))
    refine ⟨hname.of_subset hsub, ?_⟩
    split
    · exact htype
    · exact oneLine_append.mpr ⟨by decide, htype⟩
  · exact ⟨hname, htype⟩

theorem isOneLine_param? (h : OneLine body) : ∀ p ∈ param? body, p.IsOneLine := by
  intro p hp
  rw [param?] at hp
  have hname := h.of_subset (splitWord_fst_subset body)
  have hrest := h.of_subset (splitWord_snd_subset body)
  have hsplit := TypeExpr.split_subset body.splitWord.2
  have hopt := oneLine_optional hname (hrest.of_subset hsplit.1)
  dsimp only at hp
  split at hp
  · cases hp
  · cases hp
    exact ⟨hopt.1, hopt.2, hrest.of_subset hsplit.2⟩

theorem isOneLine_returns? (h : OneLine body) : ∀ r ∈ returns? body, r.IsOneLine := by
  intro r hr
  rw [returns?] at hr
  have htype := h.of_subset (TypeExpr.split_subset body).1
  have hrest := h.of_subset (TypeExpr.split_subset body).2
  dsimp only at hr
  split at hr
  · cases hr
  · split at hr
    · next description hd =>
      cases hr
      rw [hd] at hrest
      refine ⟨htype, by simp, OneLine.of_subset ?_ (trim_subset _)⟩
      exact (oneLine_cons.mp hrest).2
    · split at hr
      · cases hr
        refine ⟨htype, ?_, ?_⟩
        · simpa using hrest.of_subset (splitWord_fst_subset _)
        · exact (hrest.of_subset (splitWord_snd_subset _)).of_subset
            (List.Subset.trans (trim_subset _) (dropWhile_subset _))
      · cases hr
        exact ⟨htype, by simp, hrest⟩

theorem isOneLine_field? (h : OneLine body) : ∀ f ∈ field? body, f.IsOneLine := by
  intro f hf
  rw [field?] at hf
  have hfirst := h.of_subset (splitWord_fst_subset body)
  have hrest := h.of_subset (splitWord_snd_subset body)
  dsimp only at hf
  split at hf
  · cases hf
  generalize hnr : (if body.splitWord.1 = ("public" : Text) ∨ body.splitWord.1 = ("package" : Text) then
    body.splitWord.2.splitWord else (body.splitWord.1, body.splitWord.2)) = nr at hf
  have hnr : OneLine nr.1 ∧ OneLine nr.2 := by
    rw [← hnr]
    split
    · exact ⟨hrest.of_subset (splitWord_fst_subset _), hrest.of_subset (splitWord_snd_subset _)⟩
    · exact ⟨hfirst, hrest⟩
  have hsplit := TypeExpr.split_subset nr.2
  have hopt := oneLine_optional hnr.1 (hnr.2.of_subset hsplit.1)
  split at hf
  · cases hf
  · cases hf
    exact ⟨hopt.1, hopt.2, hnr.2.of_subset hsplit.2⟩

theorem isOneLine_getD {α : Type} {o : Option α} {f : α → DocLine} (h : ∀ a ∈ o, (f a).IsOneLine) :
    ((o.map f).getD other).IsOneLine := by
  cases o with
  | none => trivial
  | some a => exact h a rfl

theorem isOneLine_ofTag (h : OneLine s) : (ofTag s).IsOneLine := by
  have hbody := h.of_subset (splitWord_snd_subset s)
  rw [ofTag]
  dsimp only
  split
  · exact isOneLine_getD (isOneLine_param? hbody)
  split
  · exact isOneLine_getD (isOneLine_returns? hbody)
  split
  · exact hbody
  split
  · trivial
  split
  · exact hbody
  split
  · exact isOneLine_getD fun _ _ => trivial
  split
  · exact isOneLine_getD (isOneLine_field? hbody)
  split
  · exact isOneLine_getD fun _ _ => trivial
  · trivial

theorem isOneLine_ofText (h : OneLine s) : (ofText s).IsOneLine := by
  have htrim := h.of_subset (trim_subset s)
  rw [ofText]
  split
  · next tag htag =>
    rw [htag] at htrim
    exact isOneLine_ofTag (oneLine_cons.mp htrim).2
  · exact h.of_subset (List.Subset.trans (dropEndWhile_subset _ _) (without_subset _ _))

end DocLine

/-! ### Whole comments -/

namespace DocBlock

variable {block : List DocLine} {f : FunctionDoc} {r : Reading}

theorem isOneLine_describe {p : ParamDoc} (hp : p.IsOneLine) {ps : List ParamDoc}
    (hps : ∀ q ∈ ps, q.IsOneLine) : ∀ q ∈ describe p ps, q.IsOneLine := by
  induction ps with
  | nil => simp [describe]
  | cons q qs ih =>
    rw [describe]
    intro q' hq'
    split at hq'
    · rcases List.mem_cons.mp hq' with rfl | hq'
      · exact hp
      · exact hps q' (List.mem_cons_of_mem _ hq')
    · rcases List.mem_cons.mp hq' with rfl | hq'
      · exact hps _ List.mem_cons_self
      · exact ih (fun q hq => hps q (List.mem_cons_of_mem _ hq)) q' hq'

/-- One line of a comment leaves no line feed in the function. -/
theorem isOneLine_read (hr : r.function.IsOneLine) {line : DocLine} (hl : line.IsOneLine) :
    (read r line).function.IsOneLine := by
  obtain ⟨name, params, returns, summary, deprecated⟩ := hr
  cases line with
  | text s =>
    rw [read]
    split
    · exact ⟨name, params, returns, summary, deprecated⟩
    split
    · exact ⟨name, params, returns, summary, deprecated⟩
    · refine ⟨name, params, returns, fun s' hs' => ?_, deprecated⟩
      rcases List.mem_append.mp hs' with hs' | hs'
      · exact summary s' hs'
      · exact List.mem_singleton.mp hs' ▸ hl
  | param p => exact ⟨name, isOneLine_describe hl params, returns, summary, deprecated⟩
  | returns v =>
    refine ⟨name, params, fun v' hv' => ?_, summary, deprecated⟩
    rcases List.mem_append.mp hv' with hv' | hv'
    · exact returns v' hv'
    · exact List.mem_singleton.mp hv' ▸ hl
  | deprecated s => exact ⟨name, params, returns, summary, fun s' hs' => Option.some.inj hs' ▸ hl⟩
  | note s => exact ⟨name, params, returns, summary, deprecated⟩
  | hidden => exact ⟨name, params, returns, summary, deprecated⟩
  | classHead name' parent => exact ⟨name, params, returns, summary, deprecated⟩
  | field v => exact ⟨name, params, returns, summary, deprecated⟩
  | typeAlias a => exact ⟨name, params, returns, summary, deprecated⟩
  | other => exact ⟨name, params, returns, summary, deprecated⟩

theorem isOneLine_foldl_read (hr : r.function.IsOneLine) (hb : ∀ l ∈ block, l.IsOneLine) :
    (block.foldl read r).function.IsOneLine := by
  induction block generalizing r with
  | nil => exact hr
  | cons line block ih =>
    exact ih (isOneLine_read hr (hb line List.mem_cons_self)) fun l hl => hb l (List.mem_cons_of_mem _ hl)

theorem isOneLine_document? (hf : f.IsOneLine) (hb : ∀ l ∈ block, l.IsOneLine) :
    ∀ g ∈ document? block f, g.IsOneLine := by
  intro g hg
  rw [document?] at hg
  split at hg
  · cases hg
  · cases hg
    have hr := isOneLine_foldl_read (r := { function := f }) hf hb
    refine ⟨hr.name, hr.params, hr.returns, fun s hs => hr.summary s ?_, hr.deprecated⟩
    exact List.mem_reverse.mp ((List.dropWhile_suffix _).subset (List.mem_reverse.mp hs))

theorem isOneLine_classes_go {current : Option ClassDoc} (hc : ∀ k ∈ current, k.IsOneLine)
    (hb : ∀ l ∈ block, l.IsOneLine) : ∀ k ∈ classes.go current block, k.IsOneLine := by
  induction block generalizing current with
  | nil =>
    intro k hk
    exact hc k (Option.mem_toList.mp hk)
  | cons line block ih =>
    have hb' := fun l hl => hb l (List.mem_cons_of_mem line hl)
    have hline := hb line List.mem_cons_self
    -- Only a head or a field of a class changes what is being read.
    cases line with
    | classHead name parent =>
      intro k hk
      rcases List.mem_append.mp hk with hk | hk
      · exact hc k (Option.mem_toList.mp hk)
      · refine ih (fun k hk => ?_) hb' k hk
        cases hk
        exact fun f hf => absurd hf (by simp)
    | field f =>
      refine ih (fun k hk => ?_) hb'
      obtain ⟨k', hk', rfl⟩ := Option.map_eq_some_iff.mp hk
      intro g hg
      rcases List.mem_append.mp hg with hg | hg
      · exact hc k' hk' g hg
      · exact List.mem_singleton.mp hg ▸ hline
    | text s => exact ih hc hb'
    | param p => exact ih hc hb'
    | returns v => exact ih hc hb'
    | note s => exact ih hc hb'
    | hidden => exact ih hc hb'
    | deprecated s => exact ih hc hb'
    | typeAlias a => exact ih hc hb'
    | other => exact ih hc hb'

theorem isOneLine_classes (hb : ∀ l ∈ block, l.IsOneLine) : ∀ k ∈ classes block, k.IsOneLine :=
  isOneLine_classes_go (by simp) hb

end DocBlock
end PluginManual
