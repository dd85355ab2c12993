import PluginManual.Proofs.Writes

/-! What a catalog depends on. Two disks that differ only in places without a part in any catalog have
    the same catalog: other files than sources, and directories that have nothing but such places in
    them. -/

namespace PluginManual

/-! ### Lengths of paths -/

namespace Text

theorem byteLength_foldl (s : Text) (n : Nat) : s.foldl (fun n c => n + c.utf8Size) n = n + s.byteLength := by
  induction s generalizing n with
  | nil => rfl
  | cons c s ih =>
    rw [byteLength, List.foldl_cons, List.foldl_cons, ih, ih (0 + c.utf8Size)]
    omega

theorem byteLength_append (s t : Text) : (s ++ t).byteLength = s.byteLength + t.byteLength := by
  rw [byteLength, List.foldl_append, byteLength_foldl]
  rfl

theorem byteLength_pos {s : Text} (h : s ≠ []) : 0 < s.byteLength := by
  obtain ⟨c, s, rfl⟩ := List.exists_cons_of_ne_nil h
  rw [byteLength, List.foldl_cons, byteLength_foldl]
  have := c.utf8Size_pos
  omega

end Text

namespace Path

def descend (p : Path) (names : List Text) : Path := names.foldl child p

variable {p : Path}

theorem descend_concat (p : Path) (names : List Text) (name : Text) :
    p.descend (names ++ [name]) = (p.descend names).child name := by
  rw [descend, List.foldl_append]
  rfl

theorem byteLength_child_cases {name : Text} (h : isName name = true) :
    (p.child name).text.byteLength = p.text.byteLength + name.byteLength ∨
      (p.child name).text.byteLength = p.text.byteLength + 1 + name.byteLength := by
  have hcons : ∀ s : Text, s ++ '/' :: name = (s ++ ['/']) ++ name := by simp
  rcases child_eq (p := p) h with ⟨front, hfront, hc⟩ | ⟨hnil, hc⟩ | ⟨-, hc⟩
  · refine .inl ?_
    rw [hc, hcons, Text.byteLength_append, ← hfront]
  · refine .inl ?_
    rw [hc, hnil]
    exact (Nat.zero_add _).symm
  · refine .inr ?_
    rw [hc, hcons, Text.byteLength_append, Text.byteLength_append]
    rfl

theorem byteLength_child {name : Text} (h : isName name = true) :
    p.text.byteLength < (p.child name).text.byteLength := by
  have hname := Text.byteLength_pos (isName_iff.mp h).1
  have := @byteLength_child_cases p name h
  omega

theorem byteLength_descend_concat (p : Path) (names : List Text) {name : Text} (h : isName name = true) :
    (p.descend names).text.byteLength < (p.descend (names ++ [name])).text.byteLength := by
  rw [descend_concat]
  exact byteLength_child h

theorem isName_of_mem_concat {names : List Text} {name : Text} (hnames : ∀ n ∈ names, isName n = true)
    (h : isName name = true) : ∀ n ∈ names ++ [name], isName n = true := by
  intro n hmem
  rcases List.mem_append.mp hmem with hmem | hmem
  · exact hnames n hmem
  · exact List.mem_singleton.mp hmem ▸ h

end Path

namespace SourceFile
open Disk

variable {d d' : Disk} {by' : Caller} {root p : Path} {S : List Location} {names : List Text} {depth : Nat}

theorem place_descend (h : ∀ n ∈ names, Path.isName n = true) :
    place by' (p.descend names) = place by' p ++ names := by
  induction names generalizing p with
  | nil => exact (List.append_nil _).symm
  | cons name names ih =>
    have hnames := ih (p := p.child name) fun n hn => h n (List.mem_cons_of_mem _ hn)
    rw [place_child (h name List.mem_cons_self), List.append_assoc] at hnames
    exact hnames

/-! ### Searching directories -/

/-- The source files that an entry of a directory stands for: those below it, or itself. -/
def ofEntry (depth : Nat) (p : Path) (names : List Text) (name : Text) : Action FileError (List SourceFile) := do
  let q := p.child name
  let names := names ++ [name]
  if ← Action.call (.isDir q) then below depth q names
  else if isSource q then return [⟨q, names⟩]
  else return []

theorem below_succ (depth : Nat) (p : Path) (names : List Text) :
    below (depth + 1) p names = (do
      let entries ← Action.allow p (Session.call (.list p))
      let found ← entries.mapM (ofEntry depth p names)
      return found.flatten) := rfl

theorem onlyLooks_list (p : Path) : (Action.allow p (Session.call (.list p))).OnlyLooks := .ask rfl fun _ => .done _

theorem onlyLooks_below (depth : Nat) : ∀ p names, (below depth p names).OnlyLooks := by
  induction depth with
  | zero => exact fun _ _ => .throw _
  | succ depth ih =>
    intro p names
    rw [below_succ]
    refine (onlyLooks_list p).bind fun entries => (Action.OnlyLooks.mapM (fun name => ?_) _).bind fun _ => .pure _
    refine (Action.OnlyLooks.call rfl).bind fun isDir => ?_
    split
    · exact ih _ _
    · split <;> exact .pure _

theorem onlyLooks_ofEntry (depth : Nat) (p : Path) (names : List Text) (name : Text) :
    (ofEntry depth p names name).OnlyLooks := by
  refine (Action.OnlyLooks.call rfl).bind fun isDir => ?_
  split
  · exact onlyLooks_below _ _ _
  · split <;> exact .pure _

theorem allow_list_eq_ok_iff {entries : List Text} :
    (Action.allow p (Session.call (.list p))).on by' d = (.ok entries, d') ↔
      d' = d ∧ d.find? by' p = some .dir ∧ entries = d.names (place by' p) := by
  rw [Action.on_allow_eq_ok, find?_eq_some_iff]
  show (d.list by' p, d) = _ ↔ _
  rw [Prod.mk.injEq, list, bind_eq_ok]
  constructor
  · rintro ⟨⟨l, hl, h⟩, rfl⟩
    obtain rfl := eq_place_of_locate hl
    split at h
    · next hdir =>
      cases h
      exact ⟨rfl, ⟨hl, hdir⟩, rfl⟩
    · cases h
    · cases h
  · rintro ⟨rfl, ⟨hl, hdir⟩, rfl⟩
    refine ⟨⟨_, hl, ?_⟩, rfl⟩
    rw [hdir]
    rfl

/-- A directory is searched by searching each of its entries. -/
theorem below_succ_eq_ok_iff {fs : List SourceFile} :
    (below (depth + 1) p names).on by' d = (.ok fs, d) ↔
      d.find? by' p = some .dir ∧ ∃ g : Text → List SourceFile,
        (∀ name ∈ d.names (place by' p), (ofEntry depth p names name).on by' d = (.ok (g name), d)) ∧
          fs = ((d.names (place by' p)).map g).flatten := by
  rw [below_succ]
  constructor
  · intro h
    obtain ⟨entries, hlist, hmap⟩ := (onlyLooks_list p).readsOnly.on_bind_eq_ok.mp h
    obtain ⟨-, hp, rfl⟩ := allow_list_eq_ok_iff.mp hlist
    obtain ⟨found, hfound, hret⟩ :=
      (Action.OnlyLooks.mapM (onlyLooks_ofEntry depth p names) _).readsOnly.on_bind_eq_ok.mp hmap
    cases hret
    obtain ⟨g, hg, rfl⟩ := Action.OnlyLooks.on_mapM_eq_ok (onlyLooks_ofEntry depth p names) hfound
    exact ⟨hp, g, hg, rfl⟩
  · rintro ⟨hp, g, hg, rfl⟩
    refine Action.on_bind_eq_ok.mpr ⟨_, d, allow_list_eq_ok_iff.mpr ⟨rfl, hp, rfl⟩, ?_⟩
    exact Action.on_bind_eq_ok.mpr ⟨_, d, Action.on_mapM hg, rfl⟩

theorem ofEntry_of_isDir {name : Text} (h : d.find? by' (p.child name) = some .dir) :
    (ofEntry depth p names name).on by' d = (below depth (p.child name) (names ++ [name])).on by' d := by
  rw [ofEntry, Action.on_bind, Action.on_call]
  have hisDir : (d.answer by' (.isDir (p.child name))).1 = true := decide_eq_true h
  rw [hisDir]
  rfl

theorem ofEntry_of_not_isDir {name : Text} (h : d.find? by' (p.child name) ≠ some .dir) :
    (ofEntry depth p names name).on by' d =
      (.ok (if isSource (p.child name) then [⟨p.child name, names ++ [name]⟩] else []), d) := by
  rw [ofEntry, Action.on_bind, Action.on_call]
  have hisDir : (d.answer by' (.isDir (p.child name))).1 = false := decide_eq_false h
  rw [hisDir]
  simp only [Bool.false_eq_true, if_false]
  split <;> rfl

/-! ### Places without a part in a catalog -/

/-- Below a directory the disks differ only in places that add nothing to a catalog: entries that are not
    directories and not named as sources, and new directories whose paths can be followed if they are
    named as sources. -/
structure AlikeBelow (by' : Caller) (root : Path) (S : List Location) (d d' : Disk) : Prop where
  tree : d.IsTree
  tree' : d'.IsTree
  agree : AgreeOff S d d'
  dirs : ∀ l, d.get? l = some .dir → d'.get? l = some .dir
  notDir : ∀ m ∈ S, d.get? m ≠ some .dir
  source : ∀ names name, place by' root ++ names ++ [name] ∈ S → isSource ⟨name⟩ = true →
    d.get? (place by' root ++ names ++ [name]) = none ∧
      d'.get? (place by' root ++ names ++ [name]) = some .dir ∧ name.byteLength ≤ maxName ∧
      (root.descend (names ++ [name])).text.byteLength < pathLimit

theorem flatten_map_ite {α β : Type} {P : α → Prop} [DecidablePred P] (g : α → List β) (xs : List α) :
    (xs.map fun x => if P x then g x else []).flatten = ((xs.filter P).map g).flatten := by
  induction xs with
  | nil => rfl
  | cons x xs ih =>
    by_cases hx : P x
    · simp [hx, ih]
    · simp [hx, ih]

section Alike
variable (h : AlikeBelow by' root S d d')
include h

theorem AlikeBelow.find?_dir (hl : d.find? by' p = some .dir) : d'.find? by' p = some .dir := by
  obtain ⟨hlocate, hdir⟩ := find?_eq_some_iff.mp hl
  have hdir' := h.dirs _ hdir
  exact find?_eq_some_iff.mpr ⟨locate_of_dirs h.dirs hlocate (by rw [hdir']; rfl), hdir'⟩

/-- An entry at a place where the disks may differ adds nothing, if nothing is found below it. -/
theorem AlikeBelow.ofEntry_nil {name : Text} (hnames : ∀ n ∈ names, Path.isName n = true)
    (hn : Path.isName name = true) (hm : place by' root ++ names ++ [name] ∈ S)
    (hl : d'.find? by' (root.descend names) = some .dir)
    (hbelow : d'.find? by' ((root.descend names).child name) = some .dir →
      (below depth ((root.descend names).child name) (names ++ [name])).on by' d' = (.ok [], d')) :
    (ofEntry depth (root.descend names) names name).on by' d' = (.ok [], d') := by
  by_cases hdir : d'.find? by' ((root.descend names).child name) = some .dir
  · rw [ofEntry_of_isDir hdir, hbelow hdir]
  · have hsource : isSource ((root.descend names).child name) = false := by
      rw [Path.isSource_child hn]
      -- Were it named as a source, it would be a new directory and found as such.
      refine Bool.eq_false_iff.mpr fun hs => hdir ?_
      obtain ⟨-, hdir', hname, hpath⟩ := h.source names name hm hs
      rw [Path.descend_concat] at hpath
      obtain ⟨hlocate, hget⟩ := find?_eq_some_iff.mp hl
      have hplace : place by' ((root.descend names).child name) = place by' (root.descend names) ++ [name] :=
        place_child hn
      rw [find?_eq_some_iff, hplace, locate_child_iff hn hlocate hget, place_descend hnames, hdir']
      refine ⟨⟨checkPath_eq_ok_iff.mpr ⟨fun hnil => ?_, hpath⟩, hname, rfl⟩, rfl⟩
      have := Path.byteLength_child (p := root.descend names) hn
      rw [hnil] at this
      exact Nat.not_lt_zero _ this
    rw [ofEntry_of_not_isDir hdir, hsource]
    rfl

/-- A new directory adds nothing. -/
theorem AlikeBelow.below_nil (hnames : ∀ n ∈ names, Path.isName n = true)
    (hdepth : maxDepth ≤ depth + (root.descend names).text.byteLength)
    (hl : d'.find? by' (root.descend names) = some .dir)
    (hnew : d.get? (place by' root ++ names) ≠ some .dir) :
    (below depth (root.descend names) names).on by' d' = (.ok [], d') := by
  induction depth generalizing names with
  | zero =>
    -- So deep there are no directories: the path is too long to be followed.
    have hshort := byteLength_lt_of_find? hl
    have : maxDepth = pathLimit := rfl
    omega
  | succ depth ih =>
    refine below_succ_eq_ok_iff.mpr ⟨hl, fun _ => [], fun name hname => ?_, by simp⟩
    rw [place_descend hnames] at hname
    have hn := h.tree'.isName hname
    have hlonger := Path.byteLength_descend_concat root names hn
    -- The directory is not on the first disk, so neither is anything in it.
    have hm : place by' root ++ names ++ [name] ∈ S := by
      refine Decidable.byContradiction fun hm => hnew ?_
      obtain ⟨e, he⟩ := mem_names_iff.mp hname
      have := (h.tree _ ((h.agree.mem_iff hm).mp he)).2
      simpa using this
    refine h.ofEntry_nil hnames hn hm hl fun hdir => ?_
    rw [← Path.descend_concat] at hdir ⊢
    refine ih (Path.isName_of_mem_concat hnames hn) (by omega) hdir ?_
    rw [← List.append_assoc]
    exact h.notDir _ hm

/-- An entry of a directory that adds something adds the same on both disks. -/
theorem AlikeBelow.ofEntry_eq {name : Text} {fs : List SourceFile} (hn : Path.isName name = true)
    (hm : place by' (root.descend names) ++ [name] ∉ S) (hl : d.find? by' (root.descend names) = some .dir)
    (hbelow : ∀ fs, (below depth ((root.descend names).child name) (names ++ [name])).on by' d = (.ok fs, d) →
      (below depth ((root.descend names).child name) (names ++ [name])).on by' d' = (.ok fs, d'))
    (hfs : (ofEntry depth (root.descend names) names name).on by' d = (.ok fs, d)) :
    (ofEntry depth (root.descend names) names name).on by' d' = (.ok fs, d') := by
  by_cases hdir : d.find? by' ((root.descend names).child name) = some .dir
  · rw [ofEntry_of_isDir hdir] at hfs
    rw [ofEntry_of_isDir (h.find?_dir hdir), hbelow fs hfs]
  · -- What is there is the same on both disks, and both can be followed to the directory it is in.
    have hdir' : d'.find? by' ((root.descend names).child name) ≠ some .dir := by
      intro hdir'
      refine hdir ?_
      obtain ⟨hlocate, hget⟩ := find?_eq_some_iff.mp hl
      obtain ⟨hlocate', hget'⟩ := find?_eq_some_iff.mp (h.find?_dir hl)
      rw [find?_eq_some_iff, place_child hn] at hdir' ⊢
      rw [locate_child_iff hn hlocate' hget', h.agree.get?_eq hm] at hdir'
      rwa [locate_child_iff hn hlocate hget]
    rw [ofEntry_of_not_isDir hdir] at hfs
    rw [ofEntry_of_not_isDir hdir']
    exact Prod.ext (Prod.mk.inj hfs).1 rfl

theorem AlikeBelow.nil_of_mem {name : Text} {fs : List SourceFile}
    (hnames : ∀ n ∈ names, Path.isName n = true) (hname : name ∈ d.names (place by' root ++ names))
    (hm : place by' root ++ names ++ [name] ∈ S)
    (hfs : (ofEntry depth (root.descend names) names name).on by' d = (.ok fs, d)) : fs = [] := by
  have hn := h.tree.isName hname
  by_cases hdir : d.find? by' ((root.descend names).child name) = some .dir
  · obtain ⟨-, hget⟩ := find?_eq_some_iff.mp hdir
    rw [place_child hn, place_descend hnames] at hget
    exact absurd hget (h.notDir _ hm)
  · rw [ofEntry_of_not_isDir hdir, Path.isSource_child hn] at hfs
    split at hfs
    · next hs =>
      have hsome := get?_of_mem_names hname
      rw [(h.source names name hm hs).1] at hsome
      cases hsome
    · cases hfs
      rfl

/-- No source that is found on the first disk is at a place where the disks may differ. -/
theorem AlikeBelow.place_not_mem {fs : List SourceFile} (hnames : ∀ n ∈ names, Path.isName n = true)
    (hfs : (below depth (root.descend names) names).on by' d = (.ok fs, d)) : ∀ f ∈ fs, place by' f.path ∉ S := by
  induction depth generalizing names fs with
  | zero => cases hfs
  | succ depth ih =>
    obtain ⟨-, g, hg, rfl⟩ := below_succ_eq_ok_iff.mp hfs
    have hplace : place by' (root.descend names) = place by' root ++ names := place_descend hnames
    intro f hf
    obtain ⟨fs, hfs, hf⟩ := List.mem_flatten.mp hf
    obtain ⟨name, hname, rfl⟩ := List.mem_map.mp hfs
    have hentry := hg name hname
    rw [hplace] at hname
    have hn := h.tree.isName hname
    by_cases hdir : d.find? by' ((root.descend names).child name) = some .dir
    · rw [ofEntry_of_isDir hdir, ← Path.descend_concat] at hentry
      exact ih (Path.isName_of_mem_concat hnames hn) hentry f hf
    · intro hS
      have hpath : f.path = (root.descend names).child name := by
        rw [ofEntry_of_not_isDir hdir] at hentry
        rw [← Except.ok.inj (Prod.mk.inj hentry).1] at hf
        split at hf
        · rw [List.mem_singleton.mp hf]
        · cases hf
      rw [hpath, place_child hn, hplace] at hS
      rw [h.nil_of_mem hnames hname hS hentry] at hf
      cases hf

/-- Only the entries at places where the disks agree add something. -/
theorem AlikeBelow.flatten_names_eq {g : Text → List SourceFile} (hnames : ∀ n ∈ names, Path.isName n = true)
    (hg : ∀ name ∈ d.names (place by' root ++ names),
      (ofEntry depth (root.descend names) names name).on by' d = (.ok (g name), d)) :
    ((d.names (place by' root ++ names)).map g).flatten =
      ((d'.names (place by' root ++ names)).map fun name =>
        if place by' root ++ names ++ [name] ∉ S then g name else []).flatten := by
  rw [flatten_map_ite, h.agree.names_filter_eq, ← flatten_map_ite]
  refine congrArg List.flatten (List.map_congr_left fun name hname => ?_)
  split
  · rfl
  · next hm => exact h.nil_of_mem hnames hname (Decidable.not_not.mp hm) (hg name hname)

/-- A search that succeeds on the first disk finds the same on the other. -/
theorem AlikeBelow.below_eq {fs : List SourceFile} (hnames : ∀ n ∈ names, Path.isName n = true)
    (hdepth : maxDepth ≤ depth + (root.descend names).text.byteLength)
    (hfs : (below depth (root.descend names) names).on by' d = (.ok fs, d)) :
    (below depth (root.descend names) names).on by' d' = (.ok fs, d') := by
  induction depth generalizing names fs with
  | zero => cases hfs
  | succ depth ih =>
    obtain ⟨hl, g, hg, rfl⟩ := below_succ_eq_ok_iff.mp hfs
    have hplace : place by' (root.descend names) = place by' root ++ names := place_descend hnames
    rw [hplace] at hg
    refine below_succ_eq_ok_iff.mpr ⟨h.find?_dir hl,
      fun name => if place by' root ++ names ++ [name] ∉ S then g name else [], ?_⟩
    rw [hplace]
    refine ⟨fun name hname => ?_, h.flatten_names_eq hnames hg⟩
    dsimp only
    have hn := h.tree'.isName hname
    have hlonger := Path.byteLength_descend_concat root names hn
    have hnames' := Path.isName_of_mem_concat hnames hn
    by_cases hm : place by' root ++ names ++ [name] ∈ S
    · rw [if_neg (by simpa using hm)]
      refine h.ofEntry_nil hnames hn hm (h.find?_dir hl) fun hdir => ?_
      rw [← Path.descend_concat] at hdir ⊢
      exact h.below_nil hnames' (by omega) hdir (List.append_assoc _ _ _ ▸ h.notDir _ hm)
    · rw [if_pos hm]
      have hname' : name ∈ d.names (place by' root ++ names) := by
        obtain ⟨e, he⟩ := mem_names_iff.mp hname
        exact mem_names_iff.mpr ⟨e, (h.agree.mem_iff hm).mp he⟩
      refine h.ofEntry_eq hn (hplace ▸ hm) hl (fun fs hfs => ?_) (hg name hname')
      rw [← Path.descend_concat] at hfs ⊢
      exact ih hnames' (by omega) hfs

end Alike

end SourceFile

/-! ### Writing other files -/

namespace SourceFile
open Disk Files

variable {d d' : Disk} {by' : Caller} {root p : Path}

/-- A file that is no source below a directory can be written without effect on the sources there. -/
theorem alikeBelow_of_isPut {c : Content} (htree : d.IsTree) (htree' : d'.IsTree) (h : IsPut by' p c d d')
    (hp : place by' root <+: place by' p → isSource p = false) :
    AlikeBelow by' root [place by' p, place by' (partPath by'.id p)] d d' where
  tree := htree
  tree' := htree'
  agree := h.agree
  dirs l := h.dir_iff.mpr
  notDir m hm := by
    rcases List.mem_cons.mp hm with rfl | hm
    · exact h.target
    · exact List.mem_singleton.mp hm ▸ h.part_ne
  source names name hm hs := by
    refine absurd hs (Bool.eq_false_iff.mp ?_)
    rcases List.mem_cons.mp hm with hm | hm
    · obtain ⟨dir, name', hplace, hfile, hname⟩ := h.named
      obtain rfl := List.singleton_inj.mp (List.append_inj' (hm.trans hplace) rfl).2
      rw [← Path.isSource_of_fileName? hfile hname]
      exact hp ⟨names ++ [name], by rw [← hm, List.append_assoc]⟩
    · obtain ⟨dir, name', hpart, hname, hsource⟩ := Path.partPath_eq by'.id p
      rw [List.mem_singleton, hpart, place_child hname] at hm
      obtain rfl := List.singleton_inj.mp (List.append_inj' hm rfl).2
      exact hsource

/-- Directories can be made without effect on the sources below a directory, unless their paths are too
    long to tell that they are no files. -/
theorem alikeBelow_of_isGrown {paths : List Path} {news : List Location} (htree : d.IsTree) (htree' : d'.IsTree)
    (h : IsGrown by' paths news d d')
    (hshort : ∀ q ∈ paths, ∀ names name, place by' q = place by' root ++ names ++ [name] →
      isSource ⟨name⟩ = true → (root.descend (names ++ [name])).text.byteLength < pathLimit) :
    AlikeBelow by' root news d d' where
  tree := htree
  tree' := htree'
  agree := h.agree
  dirs := h.dirs
  notDir m hm := by simp [h.none m hm]
  source names name hm hs := by
    obtain ⟨q, hq, hplace⟩ := h.path _ hm
    obtain ⟨dir, name', hdir, hlen⟩ := h.named _ hm
    obtain rfl := List.singleton_inj.mp (List.append_inj' hdir rfl).2
    exact ⟨h.none _ hm, h.dir _ hm, hlen, hshort q hq names name hplace.symm hs⟩

end SourceFile

/-! ### Catalogs -/

namespace Catalog
open Disk SourceFile

variable {d d' : Disk} {by' : Caller} {root : Path} {S : List Location}

theorem onlyLooks_readText (p : Path) : (Files.readText p).OnlyLooks := by
  refine (Action.OnlyLooks.call rfl).bind fun x => ?_
  split
  · exact .pure _
  · exact .throw _
  · exact .throw _

theorem readsOnly_readText (p : Path) : (Files.readText p).ReadsOnly := (onlyLooks_readText p).readsOnly

theorem onlyLooks_addFiles (c : Catalog) (fs : List SourceFile) : (c.addFiles fs).OnlyLooks := by
  induction fs generalizing c with
  | nil => exact .pure _
  | cons f fs ih => exact (onlyLooks_readText _).bind fun s => ih _

theorem addFiles_eq {c c' : Catalog} {fs : List SourceFile}
    (hread : ∀ f ∈ fs, ∀ s, (Files.readText f.path).on by' d = (.ok s, d) →
      (Files.readText f.path).on by' d' = (.ok s, d'))
    (h : (c.addFiles fs).on by' d = (.ok c', d)) : (c.addFiles fs).on by' d' = (.ok c', d') := by
  induction fs generalizing c with
  | nil =>
    cases h
    rfl
  | cons f fs ih =>
    rw [addFiles] at h ⊢
    obtain ⟨s, hs, hrest⟩ := (readsOnly_readText f.path).on_bind_eq_ok.mp h
    refine Action.on_bind_eq_ok.mpr ⟨s, d', hread f List.mem_cons_self s hs, ?_⟩
    exact ih (fun f hf => hread f (List.mem_cons_of_mem _ hf)) hrest

/-- The catalog of the sources below a directory that is there. -/
def ofSources (root : Path) : Action SourceError Catalog :=
  Action.mapError SourceError.file (below maxDepth root [] >>= fun fs => addFiles {} (fs.mergeSort le))

theorem on_ofDirectory :
    (ofDirectory root).on by' d =
      if d.find? by' root = some .dir then (ofSources root).on by' d else (.error (.notDirectory root), d) := by
  rw [ofDirectory, Action.on_bind, Action.on_call]
  by_cases hdir : d.find? by' root = some .dir
  · have hisDir : (d.answer by' (.isDir root)).1 = true := decide_eq_true hdir
    rw [hisDir, if_pos hdir]
    rfl
  · have hisDir : (d.answer by' (.isDir root)).1 = false := decide_eq_false hdir
    rw [hisDir, if_neg hdir]
    rfl

theorem onlyLooks_ofDirectory (root : Path) : (ofDirectory root).OnlyLooks := by
  have hsources : (ofSources root).OnlyLooks :=
    ((onlyLooks_below _ _ _).bind fun _ => onlyLooks_addFiles _ _).mapError _
  refine (Action.OnlyLooks.call rfl).bind fun isDir => ?_
  split
  · exact hsources
  · exact .throw _

theorem ofDirectory_eq_ok_iff {c : Catalog} :
    (ofDirectory root).on by' d = (.ok c, d) ↔
      d.find? by' root = some .dir ∧ ∃ fs, (below maxDepth root []).on by' d = (.ok fs, d) ∧
        (addFiles {} (fs.mergeSort le)).on by' d = (.ok c, d) := by
  rw [on_ofDirectory]
  split
  · next hdir =>
    rw [ofSources, Action.on_mapError_eq_ok, (onlyLooks_below _ _ _).readsOnly.on_bind_eq_ok]
    exact ⟨fun h => ⟨hdir, h⟩, fun h => h.2⟩
  · next hdir =>
    constructor
    · intro h
      cases h
    · rintro ⟨h, -⟩
      exact absurd h hdir

/-- Where disks are alike below a directory, it has the same catalog on both. -/
theorem ofDirectory_eq {c : Catalog} (h : AlikeBelow by' root S d d')
    (hc : (ofDirectory root).on by' d = (.ok c, d)) : (ofDirectory root).on by' d' = (.ok c, d') := by
  obtain ⟨hdir, fs, hfs, hadd⟩ := ofDirectory_eq_ok_iff.mp hc
  have hnil : ∀ n ∈ ([] : List Text), Path.isName n = true := by simp
  have hfs' := h.below_eq hnil (Nat.le_add_right _ _) hfs
  have hplaces := h.place_not_mem hnil hfs
  refine ofDirectory_eq_ok_iff.mpr ⟨h.find?_dir hdir, fs, hfs', addFiles_eq (fun f hf s hs => ?_) hadd⟩
  obtain ⟨-, hread⟩ := Files.readText_eq_ok_iff.mp hs
  obtain ⟨hlocate, hfile⟩ := Files.read_eq_ok_iff.mp hread
  have hfile' := h.agree.get?_eq (hplaces f (List.mem_mergeSort.mp hf))
  rw [hfile] at hfile'
  refine Files.readText_eq_ok_iff.mpr ⟨rfl, Files.read_eq_ok_iff.mpr ⟨?_, hfile'⟩⟩
  exact locate_of_dirs h.dirs hlocate (by rw [hfile']; rfl)

end Catalog
end PluginManual
