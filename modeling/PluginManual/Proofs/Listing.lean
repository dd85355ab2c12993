import Mathlib.Data.List.Lex
import Mathlib.Data.List.Perm.Basic
import PluginManual.Proofs.Sources

/-! The order in which directories are listed. It does not matter for a catalog: the sources are put in order by the
    names that lead to them, and no two different ones have the same names. -/

namespace PluginManual

/-! ### The order of sources -/

namespace SourceFile

def letterBefore (c d : Char) : Prop := c.toNat < d.toNat

instance : IsOrderConnected Char letterBefore where
  conn _ _ _ h := by
    unfold letterBefore at *
    omega

instance : Std.Trichotomous letterBefore where
  trichotomous c d h h' := by
    unfold letterBefore at h h'
    exact Char.toNat_inj.mp (by omega)

instance : Std.Asymm letterBefore where
  asymm _ _ h := by
    unfold letterBefore at *
    omega

/-- The first names come before the second: name by name and letter by letter, the first difference counts. What ends
    first comes first. -/
def Before (names names' : List Text) : Prop := List.Lex (List.Lex letterBefore) names names'

variable {f g h : SourceFile} {names names' names'' : List Text}

theorem Before.asymm (hb : Before names names') : ¬ Before names' names :=
  Std.Asymm.asymm (r := List.Lex (List.Lex letterBefore)) _ _ hb

theorem not_before_trans (hb : ¬ Before names names') (hb' : ¬ Before names' names'') : ¬ Before names names'' :=
  IsOrderConnected.neg_trans (r := List.Lex (List.Lex letterBefore)) hb hb'

theorem eq_of_not_before (hb : ¬ Before names names') (hb' : ¬ Before names' names) : names = names' :=
  Std.Trichotomous.trichotomous (r := List.Lex (List.Lex letterBefore)) _ _ hb hb'

theorem le_iff : le f g = true ↔ ¬ Before g.names f.names := by
  rw [le, Bool.not_eq_true', ← Bool.not_eq_true, List.lex_eq_true_iff_lex]
  simp only [List.lex_eq_true_iff_lex, decide_eq_true_eq]
  rfl

theorem le_of_le_of_le (hfg : le f g = true) (hgh : le g h = true) : le f h = true :=
  le_iff.mpr (not_before_trans (le_iff.mp hgh) (le_iff.mp hfg))

theorem le_or_le (f g : SourceFile) : (le f g || le g f) = true := by
  rw [Bool.or_eq_true, le_iff, le_iff]
  by_cases hb : Before g.names f.names
  · exact .inr hb.asymm
  · exact .inl hb

theorem pairwise_mergeSort (fs : List SourceFile) : (fs.mergeSort le).Pairwise (le · · = true) :=
  @List.pairwise_mergeSort _ le (fun _ _ _ => le_of_le_of_le) le_or_le fs

/-- Files that are known by their names are in one order only. -/
theorem mergeSort_eq_of_perm {fs fs' : List SourceFile} (hperm : fs'.Perm fs)
    (hnames : ∀ f ∈ fs, ∀ g ∈ fs, f.names = g.names → f = g) : fs'.mergeSort le = fs.mergeSort le := by
  have hsorted : (fs'.mergeSort le).Perm (fs.mergeSort le) :=
    (List.mergeSort_perm fs' le).trans (hperm.trans (List.mergeSort_perm fs le).symm)
  refine hsorted.eq_of_pairwise (fun f g hf hg hfg hgf => ?_) (pairwise_mergeSort fs') (pairwise_mergeSort fs)
  refine hnames f (hperm.mem_iff.mp (List.mem_mergeSort.mp hf)) g (List.mem_mergeSort.mp hg) ?_
  exact eq_of_not_before (le_iff.mp hgf) (le_iff.mp hfg)

end SourceFile

/-! ### Listings in another order -/

namespace Disk

variable {d d' : Disk} {by' : Caller} {p : Path} {l : Location}

/-- The disks hold the same, but may list it in another order. -/
structure ListsAlike (d d' : Disk) : Prop where
  get? : ∀ l, d'.get? l = d.get? l
  names : ∀ l, (d'.names l).Perm (d.names l)

theorem lookup_eq_some_iff_mem {es : List (Location × Entry)} {e : Entry} (hnodup : (es.map (·.1)).Nodup) :
    es.lookup l = some e ↔ (l, e) ∈ es := by
  rw [List.lookup_eq_some_iff]
  constructor
  · rintro ⟨as, bs, rfl, -⟩
    simp
  · intro hmem
    obtain ⟨as, bs, rfl⟩ := List.append_of_mem hmem
    rw [List.map_append, List.nodup_append] at hnodup
    refine ⟨as, bs, rfl, fun x hx => bne_iff_ne.mpr fun hl => ?_⟩
    exact hnodup.2.2 x.1 (List.mem_map.mpr ⟨x, hx, rfl⟩) l (by simp) hl.symm

/-- The entries of a disk may come in any order, if no two are for one place. -/
theorem listsAlike_of_perm (hperm : d'.entries.Perm d.entries) (hnodup : (d.entries.map (·.1)).Nodup) : ListsAlike d d' where
  get? l := by
    rw [Disk.get?, Disk.get?]
    split
    · rfl
    · refine Option.ext fun e => ?_
      rw [lookup_eq_some_iff_mem hnodup, lookup_eq_some_iff_mem ((hperm.map _).nodup_iff.mpr hnodup), hperm.mem_iff]
  names l := hperm.filterMap _

theorem ListsAlike.locate (h : ListsAlike d d') (by' : Caller) (p : Path) : d'.locate by' p = d.locate by' p := by
  have hstep : d'.step = d.step := by
    funext l piece
    simp only [step, h.get?]
  rw [Disk.locate, Disk.locate]
  simp only [walk, hstep]

theorem ListsAlike.find? (h : ListsAlike d d') (by' : Caller) (p : Path) : d'.find? by' p = d.find? by' p := by
  rw [Disk.find?, Disk.find?, h.locate]
  simp only [h.get?]

theorem ListsAlike.read (h : ListsAlike d d') (by' : Caller) (p : Path) : d'.read by' p = d.read by' p := by
  rw [Disk.read, Disk.read, h.locate]
  simp only [h.get?]

end Disk

namespace SourceFile
open Disk

variable {d d' : Disk} {by' : Caller} {root p : Path} {names : List Text} {depth : Nat} {fs : List SourceFile}

/-- A search finds the same files in another order. -/
theorem below_of_listsAlike (h : ListsAlike d d') (hfs : (below depth p names).on by' d = (.ok fs, d)) :
    ∃ fs', (below depth p names).on by' d' = (.ok fs', d') ∧ fs'.Perm fs := by
  induction depth generalizing p names fs with
  | zero => cases hfs
  | succ depth ih =>
    obtain ⟨hdir, g, hg, rfl⟩ := below_succ_eq_ok_iff.mp hfs
    have hentry : ∀ name ∈ d'.names (place by' p), ∃ fs',
        (ofEntry depth p names name).on by' d' = (.ok fs', d') ∧ fs'.Perm (g name) := by
      intro name hname
      have hgname := hg name ((h.names _).mem_iff.mp hname)
      by_cases hsub : d.find? by' (p.child name) = some .dir
      · rw [ofEntry_of_isDir hsub] at hgname
        rw [ofEntry_of_isDir (h.find? by' _ ▸ hsub)]
        exact ih hgname
      · rw [ofEntry_of_not_isDir hsub] at hgname
        rw [ofEntry_of_not_isDir (h.find? by' _ ▸ hsub), (Prod.mk.inj hgname).1]
        exact ⟨_, rfl, .refl _⟩
    choose! g' hg' using hentry
    refine ⟨_, below_succ_eq_ok_iff.mpr ⟨h.find? by' p ▸ hdir, g', fun name hname => (hg' name hname).1, rfl⟩, ?_⟩
    rw [← List.flatMap_def, ← List.flatMap_def]
    exact (h.names _).flatMap fun name hname => (hg' name hname).2

/-- The names of a file that is found lead to it. -/
theorem path_of_mem_below (root : Path) (names : List Text) (hfs : (below depth (root.descend names) names).on by' d = (.ok fs, d)) :
    ∀ f ∈ fs, f.path = root.descend f.names := by
  induction depth generalizing names fs with
  | zero => cases hfs
  | succ depth ih =>
    obtain ⟨-, g, hg, rfl⟩ := below_succ_eq_ok_iff.mp hfs
    intro f hf
    obtain ⟨fs, hfs, hf⟩ := List.mem_flatten.mp hf
    obtain ⟨name, hname, rfl⟩ := List.mem_map.mp hfs
    have hentry := hg name hname
    by_cases hsub : d.find? by' ((root.descend names).child name) = some .dir
    · rw [ofEntry_of_isDir hsub, ← Path.descend_concat] at hentry
      exact ih _ hentry f hf
    · rw [ofEntry_of_not_isDir hsub, ← Path.descend_concat] at hentry
      rw [← Except.ok.inj (Prod.mk.inj hentry).1] at hf
      split at hf
      · rw [List.mem_singleton.mp hf]
      · cases hf

end SourceFile

namespace Catalog
open Disk SourceFile

variable {d d' : Disk} {by' : Caller} {root : Path} {c : Catalog}

/-- The order in which directories are listed does not matter for a catalog. -/
theorem ofDirectory_of_listsAlike (h : ListsAlike d d') (hc : (ofDirectory root).on by' d = (.ok c, d)) :
    (ofDirectory root).on by' d' = (.ok c, d') := by
  obtain ⟨hdir, fs, hfs, hadd⟩ := ofDirectory_eq_ok_iff.mp hc
  obtain ⟨fs', hfs', hperm⟩ := below_of_listsAlike h hfs
  have hpath := path_of_mem_below root [] hfs
  have hsort : fs'.mergeSort le = fs.mergeSort le := by
    refine mergeSort_eq_of_perm hperm fun f hf g hg hnames => ?_
    obtain ⟨pf, nf⟩ := f
    obtain ⟨pg, ng⟩ := g
    obtain rfl : nf = ng := hnames
    have hpf := hpath _ hf
    have hpg := hpath _ hg
    exact congrArg (SourceFile.mk · nf) (hpf.trans hpg.symm)
  refine ofDirectory_eq_ok_iff.mpr ⟨h.find? by' root ▸ hdir, fs', hfs', ?_⟩
  rw [hsort]
  refine addFiles_eq (fun f _ s hs => ?_) hadd
  obtain ⟨-, hread⟩ := Files.readText_eq_ok_iff.mp hs
  exact Files.readText_eq_ok_iff.mpr ⟨rfl, h.read by' f.path ▸ hread⟩

end Catalog
end PluginManual
