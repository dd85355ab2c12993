import PluginManual.Proofs.Listing
import PluginManual.Proofs.Merging

/-! The catalog of a directory in terms of the files below it: which files count, what each is found under, and which
    of several definitions of one type is kept. -/

namespace PluginManual
namespace Disk

variable {d : Disk} {by' : Caller} {root : Path} {l top : Location} {names rest : List Text} {name s : Text}

/-! ### Trees -/

theorem IsTree.dir_of_below (h : d.IsTree) (hne : rest ≠ []) (hsome : (d.get? (l ++ rest)).isSome) : d.get? l = some .dir := by
  induction rest using List.reverseRecOn with
  | nil => exact absurd rfl hne
  | append_singleton rest name ih =>
    obtain ⟨e, he⟩ := Option.isSome_iff_exists.mp hsome
    obtain ⟨dir, name', hl, -, hdir⟩ := h.parent (by simp) he
    rw [← List.append_assoc] at hl
    rw [← (List.append_inj' hl rfl).1] at hdir
    by_cases hrest : rest = []
    · rwa [hrest, List.append_nil] at hdir
    · exact ih hrest (by rw [hdir]; rfl)

theorem IsTree.isSome_of_below (h : d.IsTree) (hsome : (d.get? (l ++ rest)).isSome) : (d.get? l).isSome := by
  by_cases hne : rest = []
  · rwa [hne, List.append_nil] at hsome
  · rw [h.dir_of_below hne hsome]
    rfl

theorem IsTree.isName_of_below (h : d.IsTree) (hsome : (d.get? (l ++ rest)).isSome) : ∀ n ∈ rest, Path.isName n = true := by
  induction rest using List.reverseRecOn with
  | nil => simp
  | append_singleton rest name ih =>
    obtain ⟨e, he⟩ := Option.isSome_iff_exists.mp hsome
    obtain ⟨dir, name', hl, hname, -⟩ := h.parent (by simp) he
    rw [← List.append_assoc] at hl hsome
    obtain rfl := List.singleton_inj.mp (List.append_inj' hl rfl).2
    exact Path.isName_of_mem_concat (ih (h.isSome_of_below hsome)) hname

/-! ### Sources below a directory -/

/-- The names lead from the directory to a file of that text, which is named as a source. -/
structure HasSource (d : Disk) (top : Location) (names : List Text) (s : Text) : Prop where
  file : d.get? (top ++ names) = some (.file (.text s))
  named : ∃ front name, names = front ++ [name] ∧ SourceFile.isSource ⟨name⟩ = true

/-- What is below the directory can be reached by its path, and what is named as a source is text. -/
structure IsReadable (by' : Caller) (root : Path) (d : Disk) : Prop where
  tree : d.IsTree
  isDir : d.find? by' root = some .dir
  reached : ∀ names e, d.get? (place by' root ++ names) = some e → d.find? by' (root.descend names) = some e
  text : ∀ names name c, d.get? (place by' root ++ names ++ [name]) = some (.file c) → SourceFile.isSource ⟨name⟩ = true →
    ∃ s, c = .text s

/-- The text of a file. -/
def textAt (d : Disk) (l : Location) : Text :=
  match d.get? l with
  | some (.file (.text s)) => s
  | _ => []

theorem HasSource.textAt_eq (h : d.HasSource top names s) : d.textAt (top ++ names) = s := by
  rw [textAt, h.file]

theorem HasSource.isName (h : d.HasSource top names s) (htree : d.IsTree) : ∀ n ∈ names, Path.isName n = true :=
  htree.isName_of_below (by rw [h.file]; rfl)

theorem HasSource.ne_nil (h : d.HasSource top names s) : names ≠ [] := by
  obtain ⟨front, name, rfl, -⟩ := h.named
  simp

/-- Nothing is below a file. -/
theorem HasSource.rest_eq_nil (h : d.HasSource top (names ++ rest) s) (htree : d.IsTree)
    (hdir : d.get? (top ++ names) ≠ some .dir) : rest = [] := by
  refine Decidable.byContradiction fun hne => hdir (htree.dir_of_below hne ?_)
  rw [List.append_assoc, h.file]
  rfl

/-- A source below a directory is an entry of it, or below one. -/
theorem HasSource.eq_cons (h : d.HasSource top (names ++ rest) s) (htree : d.IsTree) (hdir : d.get? (top ++ names) = some .dir) :
    ∃ name rest', rest = name :: rest' ∧ name ∈ d.names (top ++ names) := by
  cases rest with
  | nil =>
    rw [List.append_nil] at h
    rw [h.file] at hdir
    cases hdir
  | cons name rest' =>
    refine ⟨name, rest', rfl, mem_names_iff.mpr ?_⟩
    have hsome : (d.get? (top ++ names ++ [name] ++ rest')).isSome := by
      rw [List.append_assoc, List.append_assoc, List.singleton_append, h.file]
      rfl
    obtain ⟨e, he⟩ := Option.isSome_iff_exists.mp (htree.isSome_of_below hsome)
    exact ⟨e, mem_of_get? (by simp) he⟩

end Disk

/-! ### What a search finds -/

namespace SourceFile
open Disk

variable {d : Disk} {by' : Caller} {root : Path} {names : List Text} {depth : Nat} {fs : List SourceFile}

/-- The sources whose names go on from some names. -/
def IsBelow (d : Disk) (by' : Caller) (root : Path) (names : List Text) (f : SourceFile) : Prop :=
  ∃ rest s, d.HasSource (place by' root) (names ++ rest) s ∧ f = ⟨root.descend (names ++ rest), names ++ rest⟩

theorem ofEntry_of_isReadable (h : d.IsReadable by' root) {name : Text}
    (hname : name ∈ d.names (place by' root ++ names))
    (hbelow : d.get? (place by' root ++ (names ++ [name])) = some .dir → ∃ fs,
      (below depth (root.descend (names ++ [name])) (names ++ [name])).on by' d = (.ok fs, d) ∧
        ∀ f, f ∈ fs ↔ IsBelow d by' root (names ++ [name]) f) :
    ∃ fs, (ofEntry depth (root.descend names) names name).on by' d = (.ok fs, d) ∧
      ∀ f, f ∈ fs ↔ IsBelow d by' root (names ++ [name]) f := by
  have hn := h.tree.isName hname
  obtain ⟨e, he⟩ := Option.isSome_iff_exists.mp (get?_of_mem_names hname)
  have hfound : d.find? by' ((root.descend names).child name) = some e := by
    rw [← Path.descend_concat]
    exact h.reached _ _ (List.append_assoc _ _ _ ▸ he)
  cases e with
  | dir =>
    rw [ofEntry_of_isDir hfound, ← Path.descend_concat]
    exact hbelow (List.append_assoc _ _ _ ▸ he)
  | file c =>
    have hfile : d.get? (place by' root ++ (names ++ [name])) = some (.file c) := List.append_assoc _ _ _ ▸ he
    have hnil : ∀ rest s, d.HasSource (place by' root) (names ++ [name] ++ rest) s → rest = [] := fun rest s hs =>
      hs.rest_eq_nil h.tree (by simp [hfile])
    rw [ofEntry_of_not_isDir (by simp [hfound]), Path.isSource_child hn, ← Path.descend_concat]
    refine ⟨_, rfl, fun f => ?_⟩
    split
    · next hsource =>
      obtain ⟨s, rfl⟩ := h.text names name c he hsource
      rw [List.mem_singleton]
      constructor
      · rintro rfl
        refine ⟨[], s, ?_, by rw [List.append_nil]⟩
        rw [List.append_nil]
        exact ⟨hfile, names, name, rfl, hsource⟩
      · rintro ⟨rest, s', hs, rfl⟩
        rw [hnil rest s' hs, List.append_nil]
    · next hsource =>
      refine iff_of_false (by simp) ?_
      rintro ⟨rest, s, hs, -⟩
      rw [hnil rest s hs, List.append_nil] at hs
      obtain ⟨front, name', heq, hsource'⟩ := hs.named
      obtain rfl := List.singleton_inj.mp (List.append_inj' heq rfl).2
      exact hsource hsource'

/-- A search of a readable directory finds the sources below it. -/
theorem below_of_isReadable (h : d.IsReadable by' root) (hnames : ∀ n ∈ names, Path.isName n = true)
    (hdepth : maxDepth ≤ depth + (root.descend names).text.byteLength)
    (hdir : d.get? (place by' root ++ names) = some .dir) :
    ∃ fs, (below depth (root.descend names) names).on by' d = (.ok fs, d) ∧ ∀ f, f ∈ fs ↔ IsBelow d by' root names f := by
  induction depth generalizing names with
  | zero =>
    have hshort := byteLength_lt_of_find? (h.reached names _ hdir)
    have : maxDepth = pathLimit := rfl
    omega
  | succ depth ih =>
    have hentry : ∀ name ∈ d.names (place by' root ++ names), ∃ fs,
        (ofEntry depth (root.descend names) names name).on by' d = (.ok fs, d) ∧
          ∀ f, f ∈ fs ↔ IsBelow d by' root (names ++ [name]) f := by
      intro name hname
      have hn := h.tree.isName hname
      have hlonger := Path.byteLength_descend_concat root names hn
      exact ofEntry_of_isReadable h hname fun hsub => ih (Path.isName_of_mem_concat hnames hn) (by omega) hsub
    choose! g hg using hentry
    have hplace : place by' (root.descend names) = place by' root ++ names := place_descend hnames
    refine ⟨_, below_succ_eq_ok_iff.mpr ⟨h.reached names _ hdir, g, fun name hname => (hg name (hplace ▸ hname)).1, rfl⟩, fun f => ?_⟩
    rw [hplace, List.mem_flatten]
    constructor
    · rintro ⟨fs, hfs, hf⟩
      obtain ⟨name, hname, rfl⟩ := List.mem_map.mp hfs
      obtain ⟨rest, s, hs, rfl⟩ := ((hg name hname).2 f).mp hf
      rw [List.append_assoc] at hs ⊢
      exact ⟨[name] ++ rest, s, hs, rfl⟩
    · rintro ⟨rest, s, hs, rfl⟩
      obtain ⟨name, rest', rfl, hname⟩ := hs.eq_cons h.tree hdir
      refine ⟨g name, List.mem_map.mpr ⟨name, hname, rfl⟩, ((hg name hname).2 _).mpr ⟨rest', s, ?_, ?_⟩⟩
      · rwa [List.append_assoc]
      · rw [List.append_assoc]
        rfl

end SourceFile

/-! ### What a catalog holds -/

namespace Catalog
open Disk SourceFile

variable {d d' : Disk} {by' : Caller} {root : Path} {top : Location} {c : Catalog} {fs : List SourceFile}

/-- What is kept of all that the sources below a directory define: the last one in the latest source that has any. -/
def IsLast {α : Type} (d : Disk) (top : Location) (find : LuaSource → List α) (x : α) : Prop :=
  ∃ names s, d.HasSource top names s ∧ (find (LuaSource.ofText s)).getLast? = some x ∧
    ∀ names' s', d.HasSource top names' s' → find (LuaSource.ofText s') ≠ [] → ¬ Before names names'

/-- The catalog of the sources below a directory. -/
structure IsCatalogOf (d : Disk) (top : Location) (c : Catalog) : Prop where
  functions : ∀ key fs, c.functions? key = some fs ↔
    ∃ names s, d.HasSource top names s ∧ key = Text.join ['/'] names ∧ fs = (LuaSource.ofText s).functions
  classes : ∀ name k, c.class? name = some k ↔ IsLast d top (·.classes.filter (·.name = name)) k
  aliases : ∀ name type, c.alias? name = some type ↔
    ∃ a, IsLast d top (·.aliases.filter (·.name = name)) a ∧ a.type = type
  named : c.HasOwnNames

/-- The files as sources under their keys. -/
def keyed (d : Disk) (top : Location) (fs : List SourceFile) : List (Text × LuaSource) :=
  fs.map fun f => (f.key, LuaSource.ofText (d.textAt (top ++ f.names)))

theorem addFiles_of_read (h : ∀ f ∈ fs, (Files.readText f.path).on by' d = (.ok (d.textAt (top ++ f.names)), d)) :
    (c.addFiles fs).on by' d = (.ok ((keyed d top fs).foldl (fun c x => c.addSource x.1 x.2) c), d) := by
  induction fs generalizing c with
  | nil => rfl
  | cons f fs ih =>
    rw [addFiles]
    exact Action.on_bind_eq_ok.mpr ⟨_, d, h f List.mem_cons_self, ih fun g hg => h g (List.mem_cons_of_mem _ hg)⟩

/-- No two sources have the same key. -/
theorem names_of_key (htree : d.IsTree) {names names' : List Text} {s s' : Text} (hs : d.HasSource top names s) (hs' : d.HasSource top names' s')
    (hkey : Text.join ['/'] names = Text.join ['/'] names') : names = names' := by
  have hslash : ∀ {names s}, d.HasSource top names s → Text.splitOn '/' (Text.join ['/'] names) = names := fun hs =>
    Text.splitOn_join hs.ne_nil fun n hn => (Path.isName_iff.mp (hs.isName htree n hn)).2.1
  rw [← hslash hs, hkey, hslash hs']

section Sorted
variable (htree : d.IsTree) (hmem : ∀ f, f ∈ fs ↔ IsBelow d by' root [] f)
include hmem

theorem eq_of_names {f g : SourceFile} (hf : f ∈ fs) (hg : g ∈ fs) (h : f.names = g.names) : f = g := by
  obtain ⟨names, s, -, rfl⟩ := (hmem f).mp hf
  obtain ⟨names', s', -, rfl⟩ := (hmem g).mp hg
  obtain rfl : names = names' := h
  rfl

theorem isLast_iff {α : Type} (find : LuaSource → List α) {x : α} (hsorted : fs.Pairwise (le · · = true)) :
    ((keyed d (place by' root) fs).flatMap fun x => find x.2).getLast? = some x ↔ IsLast d (place by' root) find x := by
  rw [keyed, List.flatMap_map, getLast?_flatMap_eq_some_iff hsorted]
  · constructor
    · rintro ⟨f, hf, hx, hmax⟩
      obtain ⟨names, s, hs, rfl⟩ := (hmem f).mp hf
      refine ⟨names, s, hs, hs.textAt_eq ▸ hx, fun names' s' hs' hne => ?_⟩
      refine le_iff.mp (hmax ⟨_, names'⟩ ((hmem _).mpr ⟨names', s', hs', rfl⟩) ?_)
      rwa [hs'.textAt_eq]
    · rintro ⟨names, s, hs, hx, hmax⟩
      refine ⟨_, (hmem _).mpr ⟨names, s, hs, rfl⟩, ?_, fun g hg hne => ?_⟩
      · rw [← hs.textAt_eq] at hx
        exact hx
      · obtain ⟨names', s', hs', rfl⟩ := (hmem g).mp hg
        refine le_iff.mpr (hmax names' s' hs' ?_)
        rwa [← hs'.textAt_eq]
  · exact fun f => le_iff.mpr fun hb => hb.asymm hb
  · exact fun f hf g hg hfg hgf => eq_of_names hmem hf hg (eq_of_not_before (le_iff.mp hgf) (le_iff.mp hfg))

include htree

theorem functions?_keyed {key : Text} {gs : List FunctionDoc} : (merged (keyed d (place by' root) fs)).functions? key = some gs ↔
    ∃ names s, d.HasSource (place by' root) names s ∧ key = Text.join ['/'] names ∧ gs = (LuaSource.ofText s).functions := by
  rw [functions?_merged, Option.map_eq_some_iff]
  -- Each source is found under its key, with what its text documents.
  have hkeyed : ∀ x, x ∈ keyed d (place by' root) fs ↔ ∃ names s, d.HasSource (place by' root) names s ∧
      x = (Text.join ['/'] names, LuaSource.ofText s) := by
    intro x
    rw [keyed, List.mem_map]
    constructor
    · rintro ⟨f, hf, rfl⟩
      obtain ⟨names, s, hs, rfl⟩ := (hmem f).mp hf
      exact ⟨names, s, hs, congrArg (fun t => (_, LuaSource.ofText t)) hs.textAt_eq⟩
    · rintro ⟨names, s, hs, rfl⟩
      exact ⟨_, (hmem _).mpr ⟨names, s, hs, rfl⟩, congrArg (fun t => (_, LuaSource.ofText t)) hs.textAt_eq⟩
  constructor
  · rintro ⟨x, hx, rfl⟩
    obtain ⟨hx, hkey⟩ := List.mem_filter.mp (List.mem_of_getLast? hx)
    obtain ⟨names, s, hs, rfl⟩ := (hkeyed x).mp hx
    exact ⟨names, s, hs, (of_decide_eq_true hkey).symm, rfl⟩
  · rintro ⟨names, s, hs, rfl, rfl⟩
    have hx : (Text.join ['/'] names, LuaSource.ofText s) ∈
        (keyed d (place by' root) fs).filter (·.1 = Text.join ['/'] names) :=
      List.mem_filter.mpr ⟨(hkeyed _).mpr ⟨names, s, hs, rfl⟩, decide_eq_true rfl⟩
    obtain ⟨y, hy⟩ := Option.isSome_iff_exists.mp (List.getLast?_isSome.mpr (List.ne_nil_of_mem hx))
    refine ⟨y, hy, ?_⟩
    obtain ⟨hmemy, hkey⟩ := List.mem_filter.mp (List.mem_of_getLast? hy)
    obtain ⟨names', s', hs', rfl⟩ := (hkeyed y).mp hmemy
    obtain rfl := names_of_key htree hs' hs (of_decide_eq_true hkey)
    rw [← hs.textAt_eq, ← hs'.textAt_eq]

theorem isCatalogOf_merged (hsorted : fs.Pairwise (le · · = true)) :
    IsCatalogOf d (place by' root) (merged (keyed d (place by' root) fs)) where
  functions _ _ := functions?_keyed htree hmem
  classes name k := by
    rw [class?_merged]
    exact isLast_iff hmem (·.classes.filter (·.name = name)) hsorted
  aliases name type := by
    rw [alias?_merged, Option.map_eq_some_iff]
    exact exists_congr fun a => and_congr_left fun _ => isLast_iff hmem (·.aliases.filter (·.name = name)) hsorted
  named name k h := by
    rw [class?_merged] at h
    obtain ⟨x, -, hk⟩ := List.mem_flatMap.mp (List.mem_of_getLast? h)
    exact of_decide_eq_true (List.mem_filter.mp hk).2

end Sorted

/-- A directory whose sources can be read has the catalog of these sources, however directories are listed. -/
theorem ofDirectory_isCatalogOf (h : d.IsReadable by' root) : ∃ c, IsCatalogOf d (place by' root) c ∧
    ∀ d', ListsAlike d d' → (ofDirectory root).on by' d' = (.ok c, d') := by
  have htop : d.get? (place by' root ++ []) = some .dir := by
    rw [List.append_nil]
    exact (find?_eq_some_iff.mp h.isDir).2
  have hnil : ∀ n ∈ ([] : List Text), Path.isName n = true := by simp
  obtain ⟨fs, hfs, hmem⟩ := below_of_isReadable h hnil (Nat.le_add_right _ _) htop
  have hsort : ∀ f, f ∈ fs.mergeSort le ↔ IsBelow d by' root [] f := fun f => List.mem_mergeSort.trans (hmem f)
  refine ⟨_, isCatalogOf_merged h.tree hsort (pairwise_mergeSort fs), fun d' hd' => ofDirectory_of_listsAlike hd' ?_⟩
  refine ofDirectory_eq_ok_iff.mpr ⟨h.isDir, fs, hfs, addFiles_of_read fun f hf => ?_⟩
  obtain ⟨names, s, hs, rfl⟩ := (hsort f).mp hf
  obtain ⟨hlocate, hfile⟩ := find?_eq_some_iff.mp (h.reached _ _ hs.file)
  rw [hs.textAt_eq]
  exact Files.readText_eq_ok_iff.mpr ⟨rfl, Files.read_eq_ok_iff.mpr ⟨hlocate, hfile⟩⟩

/-- Two sources that define one class, listed in either order. By the letters of their keys the other one would be the
    later source. -/
theorem ofDirectory_of_reverse :
    let d : Disk := ⟨[(["lua".toList], .dir), (["lua".toList, "a".toList], .dir),
      (["lua".toList, "a".toList, "b.lua".toList], .file (.text "---@class A\n---@field x integer\n".toList)),
      (["lua".toList, "a.lua".toList], .file (.text "---@class A\n".toList))]⟩
    let d' : Disk := ⟨d.entries.reverse⟩
    let root : Path := ⟨"/lua".toList⟩
    d.IsReadable ⟨[], 1⟩ root ∧ ListsAlike d d' ∧ ∃ c, IsCatalogOf d ["lua".toList] c ∧
      (ofDirectory root).on ⟨[], 1⟩ d = (.ok c, d) ∧ (ofDirectory root).on ⟨[], 1⟩ d' = (.ok c, d') ∧
      c.class? "A" = some ⟨"A", none, []⟩ := by
  intro d d' root
  have hplace : place ⟨[], 1⟩ root = ["lua".toList] := by decide
  have hentries : ∀ names e, d.get? (["lua".toList] ++ names) = some e → (names = [] ∧ e = .dir) ∨
      (names = ["a".toList] ∧ e = .dir) ∨
      (names = ["a".toList, "b.lua".toList] ∧ e = .file (.text "---@class A\n---@field x integer\n".toList)) ∨
      names = ["a.lua".toList] ∧ e = .file (.text "---@class A\n".toList) := by
    intro names e he
    have hmem := mem_of_get? (by simp) he
    simpa only [d, List.mem_cons, List.not_mem_nil, or_false, Prod.mk.injEq, List.cons_append, List.nil_append, List.cons.injEq,
      true_and] using hmem
  have hreadable : d.IsReadable ⟨[], 1⟩ root := by
    refine ⟨by decide, by decide, fun names e he => ?_, fun names name c hc _ => ?_⟩
    · rcases hentries names e (hplace ▸ he) with ⟨rfl, rfl⟩ | ⟨rfl, rfl⟩ | ⟨rfl, rfl⟩ | ⟨rfl, rfl⟩ <;> decide
    · rw [hplace, List.append_assoc] at hc
      rcases hentries _ _ hc with ⟨-, hfile⟩ | ⟨-, hfile⟩ | ⟨-, hfile⟩ | ⟨-, hfile⟩ <;> cases hfile <;> exact ⟨_, rfl⟩
  have hlists : ListsAlike d d' := listsAlike_of_perm (List.reverse_perm _) (by decide)
  obtain ⟨c, hc, hon⟩ := ofDirectory_isCatalogOf hreadable
  rw [hplace] at hc
  refine ⟨hreadable, hlists, c, hc, hon d ⟨fun _ => rfl, fun _ => .refl _⟩, hon d' hlists, ?_⟩
  refine (hc.classes _ _).mpr ⟨["a.lua".toList], _, ⟨rfl, [], _, rfl, by decide⟩, by decide +kernel, fun names s hs _ => ?_⟩
  rcases hentries names _ hs.file with ⟨-, hfile⟩ | ⟨-, hfile⟩ | ⟨rfl, -⟩ | ⟨rfl, -⟩
  · cases hfile
  · cases hfile
  · have hle : le ⟨root, ["a".toList, "b.lua".toList]⟩ ⟨root, ["a.lua".toList]⟩ = true := by decide
    exact le_iff.mp hle
  · exact fun hb => hb.asymm hb

end Catalog
end PluginManual
