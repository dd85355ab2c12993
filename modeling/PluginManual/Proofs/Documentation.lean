import PluginManual.Proofs.Comments
import PluginManual.Proofs.Sources

/-! What a catalog holds: functions and classes whose texts have no line feed, since they are all cut out
    of lines without their ends. -/

namespace PluginManual
open Text

/-! ### Definitions -/

namespace LuaDefinition

variable {s : Text}

theorem dottedRun?_subset {run rest : Text} (h : dottedRun? s = some (run, rest)) : run ⊆ s ∧ rest ⊆ s := by
  unfold dottedRun? at h
  dsimp only at h
  split at h
  · cases h
  · split at h
    · obtain ⟨rfl, rfl⟩ := Prod.mk.inj (Option.some.inj h)
      exact ⟨takeWhile_subset _, dropWhile_subset _⟩
    · cases h

theorem splitLastDot?_snd_subset {table name : Text} (h : splitLastDot? s = some (table, name)) : name ⊆ s := by
  rw [splitLastDot?] at h
  split at h
  · cases h
  · cases h
    exact fun c hc => List.mem_reverse.mp (takeWhile_subset _ (List.mem_reverse.mp hc))

theorem argNames_subset : ∀ name ∈ argNames s, name ⊆ s := by
  intro name h
  obtain ⟨piece, hpiece, rfl⟩ := List.mem_map.mp (List.mem_filter.mp h).1
  exact List.Subset.trans (trim_subset piece) (splitOn_subset piece hpiece)

theorem args?_subset {names : List Text} (h : args? s = some names) : ∀ name ∈ names, name ⊆ s := by
  intro name hname
  rw [args?] at h
  split at h
  · next rest hs =>
    split at h
    · cases h
      have hrest : rest ⊆ s := by
        intro c hc
        have hmem : c ∈ s.trimStart := hs ▸ List.mem_cons_of_mem _ hc
        exact dropWhile_subset s hmem
      exact List.Subset.trans (argNames_subset name hname) (List.Subset.trans (takeWhile_subset _) hrest)
    · cases h
  · cases h

theorem target?_subset {table : Option Text} {isMethod : Bool} {name rest : Text}
    (h : target? s = some (table, isMethod, name, rest)) : name ⊆ s ∧ rest ⊆ s := by
  rw [target?] at h
  obtain ⟨⟨run, after⟩, hrun, h⟩ := Option.bind_eq_some_iff.mp h
  obtain ⟨hsub, hafter⟩ := dottedRun?_subset hrun
  dsimp only at h
  split at h
  · next after' =>
    obtain ⟨-, -, h⟩ := Option.bind_eq_some_iff.mp h
    cases h
    have hafter' := List.Subset.trans (List.subset_cons_self _ _) hafter
    exact ⟨List.Subset.trans (takeWhile_subset _) hafter', List.Subset.trans (dropWhile_subset _) hafter'⟩
  · split at h
    · next table' name' hdot =>
      obtain ⟨-, -, h⟩ := Option.bind_eq_some_iff.mp h
      cases h
      exact ⟨List.Subset.trans (splitLastDot?_snd_subset hdot) hsub, hafter⟩
    · cases h
      exact ⟨hsub, hafter⟩

theorem ofFunction?_subset {d : LuaDefinition} (h : ofFunction? s = some d) :
    d.name ⊆ s ∧ ∀ arg ∈ d.args, arg ⊆ s := by
  rw [ofFunction?] at h
  obtain ⟨s', hs', h⟩ := Option.bind_eq_some_iff.mp h
  obtain ⟨-, -, h⟩ := Option.bind_eq_some_iff.mp h
  obtain ⟨⟨table, isMethod, name, rest⟩, htarget, h⟩ := Option.bind_eq_some_iff.mp h
  obtain ⟨args, hargs, h⟩ := Option.bind_eq_some_iff.mp h
  cases h
  have hsub : s'.trimStart ⊆ s := List.Subset.trans (dropWhile_subset _) (isPrefixOf?_subset hs')
  obtain ⟨hname, hrest⟩ := target?_subset htarget
  exact ⟨List.Subset.trans hname hsub, fun arg harg =>
    List.Subset.trans (args?_subset hargs arg harg) (List.Subset.trans hrest hsub)⟩

theorem ofAssignment?_subset {d : LuaDefinition} (h : ofAssignment? s = some d) :
    d.name ⊆ s ∧ ∀ arg ∈ d.args, arg ⊆ s := by
  rw [ofAssignment?] at h
  obtain ⟨⟨run, rest⟩, hrun, h⟩ := Option.bind_eq_some_iff.mp h
  obtain ⟨⟨table, name⟩, hdot, h⟩ := Option.bind_eq_some_iff.mp h
  obtain ⟨-, -, h⟩ := Option.bind_eq_some_iff.mp h
  obtain ⟨rest₁, hrest₁, h⟩ := Option.bind_eq_some_iff.mp h
  obtain ⟨rest₂, hrest₂, h⟩ := Option.bind_eq_some_iff.mp h
  obtain ⟨args, hargs, h⟩ := Option.bind_eq_some_iff.mp h
  cases h
  obtain ⟨hrun, hrest⟩ := dottedRun?_subset hrun
  have hrest₁ := List.Subset.trans (isPrefixOf?_subset hrest₁) (List.Subset.trans (dropWhile_subset _) hrest)
  have hrest₂ := List.Subset.trans (isPrefixOf?_subset hrest₂) (List.Subset.trans (dropWhile_subset _) hrest₁)
  exact ⟨List.Subset.trans (splitLastDot?_snd_subset hdot) hrun, fun arg harg =>
    List.Subset.trans (args?_subset hargs arg harg) hrest₂⟩

/-- What a definition names is cut out of its text. -/
theorem ofText?_subset {d : LuaDefinition} (h : ofText? s = some d) : d.name ⊆ s ∧ ∀ arg ∈ d.args, arg ⊆ s := by
  rw [ofText?] at h
  rcases Option.or_eq_some_iff.mp h with h | ⟨-, h⟩
  · exact ofFunction?_subset h
  · exact ofAssignment?_subset h

theorem isOneLine_function {d : LuaDefinition} {n : Nat} (hname : OneLine d.name)
    (hargs : ∀ arg ∈ d.args, OneLine arg) :
    ({ d.function with line := n } : FunctionDoc).IsOneLine := by
  refine ⟨hname, fun p hp => ?_, by simp [function], by simp [function], by simp [function]⟩
  obtain ⟨arg, harg, rfl⟩ := List.mem_map.mp hp
  exact ⟨hargs arg harg, (by decide : OneLine "any"), oneLine_nil⟩

theorem oneLine_continuation {following : List Text} (h : ∀ l ∈ following, OneLine l) :
    OneLine (wrapped.continuation following) := by
  induction following with
  | nil => exact oneLine_nil
  | cons line rest ih =>
    have hline := (h line List.mem_cons_self).of_subset (trim_subset line)
    have hrest := ih fun l hl => h l (List.mem_cons_of_mem _ hl)
    rw [wrapped.continuation]
    refine oneLine_append.mpr ⟨oneLine_cons.mpr ⟨by decide, hline⟩, ?_⟩
    split
    · exact oneLine_nil
    · exact hrest

theorem oneLine_wrapped {line : Text} {following : List Text} (hline : OneLine line)
    (h : ∀ l ∈ following, OneLine l) : OneLine (wrapped line following) := by
  have hfirst : OneLine line.trimStart := hline.of_subset (dropWhile_subset line)
  rw [wrapped]
  show OneLine (if '(' ∈ line.trimStart ∧ ')' ∉ line.trimStart then _ else _)
  split
  · exact oneLine_append.mpr ⟨hfirst, oneLine_continuation h⟩
  · exact hfirst

end LuaDefinition

/-! ### Sources -/

namespace Text

theorem oneLine_bareLine {line : Text} (h : IsWhole line ∨ OneLine line) : OneLine (bareLine line) := by
  rcases h with ⟨s, hs, rfl⟩ | h
  · have hback : '\n' ∉ s.reverse := fun hc => hs (List.mem_reverse.mp hc)
    rw [bareLine, List.reverse_append, List.reverse_singleton, List.singleton_append]
    generalize s.reverse = back at hback ⊢
    split
    · next t ht =>
      obtain rfl := (List.cons.inj ht).2
      exact fun hc => hback (List.mem_cons_of_mem _ (List.mem_reverse.mp hc))
    · next t ht =>
      obtain rfl := (List.cons.inj ht).2
      exact fun hc => hback (List.mem_reverse.mp hc)
    · next hne => exact absurd rfl (hne back)
  · rw [bareLine]
    have hrev : '\n' ∉ line.reverse := fun hc => h (List.mem_reverse.mp hc)
    split
    · next hback => exact absurd (hback ▸ List.mem_cons_self) hrev
    · next hback => exact absurd (hback ▸ List.mem_cons_self) hrev
    · exact h

theorem oneLine_of_mem_bareLines {s : Text} : ∀ l ∈ bareLines s, OneLine l := by
  intro l hl
  obtain ⟨line, hline, rfl⟩ := List.mem_map.mp hl
  clear hl
  refine oneLine_bareLine ?_
  induction s using lines_induction with
  | nil => cases hline
  | last s hne hmem =>
    -- The last line need not be whole, but it has no line feed then.
    rw [lines_of_not_mem hne hmem] at hline
    exact Or.inr (List.mem_singleton.mp hline ▸ hmem)
  | append first t hfirst ih =>
    rw [lines_append_of_isWhole hfirst] at hline
    rcases List.mem_cons.mp hline with rfl | hline
    · exact Or.inl hfirst
    · exact ih hline

end Text

namespace LuaComment

/-- The texts of the comment and of the definition after it have no line feed. -/
structure IsOneLine (c : LuaComment) : Prop where
  lines : ∀ l ∈ c.lines, l.IsOneLine
  subject : ∀ x ∈ c.subject, OneLine x.2

theorem isOneLine_scan {n : Nat} {begun : List DocLine} {lines : List Text} (hb : ∀ l ∈ begun, l.IsOneLine)
    (hl : ∀ l ∈ lines, OneLine l) : ∀ c ∈ scan n begun lines, c.IsOneLine := by
  induction lines generalizing n begun with
  | nil =>
    rw [scan]
    split
    · simp
    · intro c hc
      rw [List.mem_singleton.mp hc]
      exact ⟨hb, by simp⟩
  | cons line rest ih =>
    have hline := hl line List.mem_cons_self
    have hrest := fun l hmem => hl l (List.mem_cons_of_mem line hmem)
    rw [scan]
    split
    · next s hs =>
      have hs : OneLine s := (hline.of_subset (dropWhile_subset line)).of_subset (isPrefixOf?_subset hs)
      refine ih (fun l hmem => ?_) hrest
      rcases List.mem_append.mp hmem with hmem | hmem
      · exact hb l hmem
      · exact List.mem_singleton.mp hmem ▸ DocLine.isOneLine_ofText hs
    · split
      · exact ih (by simp) hrest
      · intro c hc
        rcases List.mem_cons.mp hc with rfl | hc
        · refine ⟨hb, fun x hx => ?_⟩
          cases hx
          exact LuaDefinition.oneLine_wrapped hline hrest
        · exact ih (by simp) hrest c hc

theorem isOneLine_function? {c : LuaComment} (h : c.IsOneLine) : ∀ f ∈ c.function?, f.IsOneLine := by
  intro f hf
  obtain ⟨⟨n, text⟩, hsubject, hf⟩ := Option.bind_eq_some_iff.mp hf
  obtain ⟨d, hd, hf⟩ := Option.bind_eq_some_iff.mp hf
  have htext := h.subject _ hsubject
  obtain ⟨hname, hargs⟩ := LuaDefinition.ofText?_subset hd
  refine DocBlock.isOneLine_document? ?_ h.lines f hf
  exact LuaDefinition.isOneLine_function (htext.of_subset hname) fun arg harg => htext.of_subset (hargs arg harg)

end LuaComment

namespace LuaSource

theorem isOneLine_ofText (s : Text) :
    (∀ f ∈ (ofText s).functions, f.IsOneLine) ∧ ∀ k ∈ (ofText s).classes, k.IsOneLine := by
  have hcs : ∀ c ∈ LuaComment.scan 1 [] s.bareLines, c.IsOneLine :=
    LuaComment.isOneLine_scan (by simp) oneLine_of_mem_bareLines
  constructor
  · intro f hf
    obtain ⟨c, hc, hf⟩ := List.mem_filterMap.mp hf
    exact LuaComment.isOneLine_function? (hcs c hc) f hf
  · intro k hk
    obtain ⟨c, hc, hk⟩ := List.mem_flatMap.mp hk
    exact DocBlock.isOneLine_classes (hcs c hc).lines k hk

end LuaSource

/-! ### Catalogs -/

namespace Catalog
open Disk SourceFile

/-- The texts of all functions and of all fields of classes have no line feed. -/
structure IsOneLine (c : Catalog) : Prop where
  files : ∀ fs ∈ c.files.values, ∀ f ∈ fs, f.IsOneLine
  classes : ∀ k ∈ c.classes.values, k.IsOneLine

variable {c c' : Catalog} {d d' : Disk} {by' : Caller}

theorem isOneLine_empty : IsOneLine {} := ⟨nofun, nofun⟩

theorem IsOneLine.addClass (h : c.IsOneLine) {k : ClassDoc} (hk : k.IsOneLine) : (c.addClass k).IsOneLine := by
  refine ⟨h.files, fun k' hk' => ?_⟩
  rcases Dictionary.mem_values_insert hk' with hk' | rfl
  · exact h.classes k' hk'
  · exact hk

theorem IsOneLine.addClasses (h : c.IsOneLine) {ks : List ClassDoc} (hks : ∀ k ∈ ks, k.IsOneLine) :
    (ks.foldl Catalog.addClass c).IsOneLine := by
  induction ks generalizing c with
  | nil => exact h
  | cons k ks ih =>
    exact ih (h.addClass (hks k List.mem_cons_self)) fun k' hk' => hks k' (List.mem_cons_of_mem _ hk')

theorem IsOneLine.addAliases (h : c.IsOneLine) (as : List AliasDoc) : (as.foldl addAlias c).IsOneLine := by
  induction as generalizing c with
  | nil => exact h
  | cons a as ih => exact ih ⟨h.files, h.classes⟩

theorem IsOneLine.addSource (h : c.IsOneLine) (key s : Text) : (c.addSource key (LuaSource.ofText s)).IsOneLine := by
  obtain ⟨hfs, hks⟩ := LuaSource.isOneLine_ofText s
  have h := (h.addClasses hks).addAliases (LuaSource.ofText s).aliases
  refine ⟨fun fs hmem => ?_, h.classes⟩
  rcases Dictionary.mem_values_insert hmem with hmem | rfl
  · exact h.files fs hmem
  · exact hfs

theorem IsOneLine.addFiles (h : c.IsOneLine) {fs : List SourceFile}
    (hadd : (c.addFiles fs).on by' d = (.ok c', d')) : c'.IsOneLine := by
  induction fs generalizing c d with
  | nil =>
    cases hadd
    exact h
  | cons f fs ih =>
    obtain ⟨s, d₁, -, hrest⟩ := Action.on_bind_eq_ok.mp hadd
    exact ih (h.addSource f.key s) hrest

theorem isOneLine_ofDirectory {root : Path} (h : (ofDirectory root).on by' d = (.ok c, d)) : c.IsOneLine := by
  obtain ⟨-, fs, -, hadd⟩ := ofDirectory_eq_ok_iff.mp h
  exact isOneLine_empty.addFiles hadd

theorem IsOneLine.functions? (h : c.IsOneLine) {key : Text} {fs : List FunctionDoc} (hfs : c.functions? key = some fs) :
    ∀ f ∈ fs, f.IsOneLine := h.files fs (Dictionary.mem_values_of_get? hfs)

theorem mem_classes_of_class? {name : Text} {k : ClassDoc} (h : c.class? name = some k) : k ∈ c.classes.values :=
  Dictionary.mem_values_of_get? h

theorem mem_classes_of_follow {n : Nat} {type : Text} {k : ClassDoc} (h : c.follow n type = some k) :
    k ∈ c.classes.values := by
  induction n generalizing type with
  | zero => cases h
  | succ n ih =>
    rw [follow] at h
    obtain ⟨name, -, h⟩ := Option.bind_eq_some_iff.mp h
    split at h
    · next hk =>
      cases h
      exact mem_classes_of_class? hk
    · obtain ⟨type', -, h⟩ := Option.bind_eq_some_iff.mp h
      exact ih h

theorem mem_classes_of_ancestry {n : Nat} {chain : List ClassDoc} (h : ∀ k ∈ chain, k ∈ c.classes.values) :
    ∀ k ∈ c.ancestry n chain, k ∈ c.classes.values := by
  induction n generalizing chain with
  | zero => exact h
  | succ n ih =>
    rw [ancestry]
    split
    · exact h
    · split
      · exact h
      · next k hk =>
        split
        · exact h
        · refine ih fun k' hk' => ?_
          rcases List.mem_cons.mp hk' with rfl | hk'
          · exact mem_classes_of_class? hk
          · exact h k' hk'

/-- The fields that a type stands for belong to classes of the catalog. -/
theorem exists_class_of_mem_fields {type : Text} {f : FieldDoc} (h : f ∈ ((c.classFor? type).map c.fieldsOf).getD []) :
    ∃ k ∈ c.classes.values, f ∈ k.fields := by
  cases hk : c.classFor? type with
  | none =>
    rw [hk] at h
    cases h
  | some k =>
    rw [hk] at h
    obtain ⟨k', hk', hf⟩ := List.mem_flatMap.mp h
    have hmem : ∀ k' ∈ [k], k' ∈ c.classes.values := fun k' hk' =>
      List.mem_singleton.mp hk' ▸ mem_classes_of_follow hk
    exact ⟨k', mem_classes_of_ancestry hmem k' hk', hf⟩

/-- The fields that a type stands for have no line feed in their texts. -/
theorem IsOneLine.fields (h : c.IsOneLine) (type : Text) :
    ∀ f ∈ ((c.classFor? type).map c.fieldsOf).getD [], f.IsOneLine := by
  intro f hf
  obtain ⟨k, hk, hf⟩ := exists_class_of_mem_fields hf
  exact h.classes k hk f hf

end Catalog
end PluginManual
