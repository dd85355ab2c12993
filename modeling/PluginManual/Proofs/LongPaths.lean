import PluginManual.Proofs.Sources

/-! Paths that are long because of dots in them. Such a path leads to where it leads without the dots, as
    far as it is short enough to be followed. An entry that is out of reach because its path is too long is
    taken for a file; if it is named as a source, there is no catalog. -/

namespace PluginManual
namespace Path

/-! ### Dots at the end of a path -/

/-- The path followed by so many dots. -/
def dotted (p : Path) : Nat → Path
  | 0 => p
  | n + 1 => ⟨(p.dotted n).text ++ ['/', '.']⟩

variable {p : Path}

theorem byteLength_dotted (p : Path) (n : Nat) : (p.dotted n).text.byteLength = p.text.byteLength + 2 * n := by
  induction n with
  | zero => rfl
  | succ n ih =>
    rw [dotted, Text.byteLength_append, ih]
    show p.text.byteLength + 2 * n + 2 = _
    omega

theorem dotted_ne_nil (hp : p.text ≠ []) (n : Nat) : (p.dotted n).text ≠ [] := by
  cases n with
  | zero => exact hp
  | succ n => simp [dotted]

theorem isAbsolute_dotted (hp : p.text ≠ []) (n : Nat) : (p.dotted n).isAbsolute = p.isAbsolute := by
  induction n with
  | zero => rfl
  | succ n ih =>
    rw [← ih]
    obtain ⟨c, t, ht⟩ := List.exists_cons_of_ne_nil (dotted_ne_nil hp n)
    simp [isAbsolute, dotted, ht]

theorem way_dotted_succ (p : Path) (n : Nat) : (p.dotted (n + 1)).way = (p.dotted n).way ++ [['.']] := by
  have hpieces : (p.dotted (n + 1)).pieces = (p.dotted n).pieces ++ [['.']] := Text.splitOn_append_sep _ _ _
  rw [way, hpieces, List.filter_append]
  rfl

end Path

namespace Disk

variable {d : Disk} {by' : Caller} {p : Path} {l : Location}

theorem checkPath_child {name : Text} (hn : Path.isName name = true)
    (h : p.text.byteLength + 1 + name.byteLength < pathLimit) : checkPath (p.child name) = .ok () := by
  refine checkPath_eq_ok_iff.mpr ⟨fun hnil => ?_, ?_⟩
  · have hlength := Path.byteLength_child (p := p) hn
    rw [hnil] at hlength
    exact Nat.not_lt_zero _ hlength
  · have hlength := Path.byteLength_child_cases (p := p) hn
    omega

theorem text_ne_nil_of_locate (h : d.locate by' p = .ok l) : p.text ≠ [] :=
  (checkPath_eq_ok_iff.mp (locate_eq_ok_iff.mp h).1).1

theorem start_dotted (hp : p.text ≠ []) (n : Nat) : start by' (p.dotted n) = start by' p := by
  rw [start, start, Path.isAbsolute_dotted hp]

theorem walkSteps_dotted_succ (p : Path) (n : Nat) :
    walkSteps (p.dotted (n + 1)) = (p.dotted n).way ++ [['.']] := by
  have hslash : (p.dotted (n + 1)).text.getLast? ≠ some '/' := by simp [Path.dotted]
  rw [walkSteps_eq, if_neg hslash, Path.way_dotted_succ, List.append_nil]

/-- Dots behind the path of a directory lead nowhere else. -/
theorem locate_dotted {n : Nat} (hl : d.locate by' p = .ok l) (hdir : d.get? l = some .dir)
    (hshort : (p.dotted n).text.byteLength < pathLimit) : d.locate by' (p.dotted n) = .ok l := by
  have hp := text_ne_nil_of_locate hl
  have hdot : d.step l ['.'] = .ok l := step_eq_ok_iff.mpr ⟨hdir, rfl, fun hne => absurd rfl hne⟩
  induction n with
  | zero => exact hl
  | succ n ih =>
    have hlength := Path.byteLength_dotted p n
    have hlength' := Path.byteLength_dotted p (n + 1)
    obtain ⟨-, hwalk⟩ := locate_eq_ok_iff.mp (ih (by omega))
    refine locate_eq_ok_iff.mpr ⟨checkPath_eq_ok_iff.mpr ⟨Path.dotted_ne_nil hp _, hshort⟩, ?_⟩
    rw [start_dotted hp] at hwalk ⊢
    rw [walkSteps_eq] at hwalk
    rw [walkSteps_dotted_succ]
    -- A path that ends with a slash has a step for it already, which the dot takes over.
    split at hwalk
    · exact hwalk
    · rw [List.append_nil] at hwalk
      exact walk_append_eq_ok_iff.mpr ⟨l, hwalk, walk_singleton.trans hdot⟩

end Disk

/-! ### Entries out of reach -/

namespace SourceFile
open Disk

theorem below_of_single {d : Disk} {by' : Caller} {p : Path} {names : List Text} {depth : Nat} {name : Text}
    {fs : List SourceFile} (hp : d.find? by' p = some .dir) (hnames : d.names (place by' p) = [name])
    (hentry : (ofEntry depth p names name).on by' d = (.ok fs, d)) :
    (below (depth + 1) p names).on by' d = (.ok fs, d) := by
  refine below_succ_eq_ok_iff.mpr ⟨hp, fun _ => fs, ?_, ?_⟩
  · simpa [hnames] using hentry
  · simp [hnames]

end SourceFile

namespace Catalog
open Disk SourceFile

variable {d : Disk} {by' : Caller} {root : Path} {c c' : Catalog}

theorem readText_of_addFiles {fs : List SourceFile} (h : (c.addFiles fs).on by' d = (.ok c', d)) :
    ∀ f ∈ fs, ∃ s, (Files.readText f.path).on by' d = (.ok s, d) := by
  induction fs generalizing c with
  | nil => simp
  | cons f fs ih =>
    rw [addFiles] at h
    obtain ⟨s, hs, hrest⟩ := (readsOnly_readText f.path).on_bind_eq_ok.mp h
    intro g hg
    rcases List.mem_cons.mp hg with rfl | hg
    · exact ⟨s, hs⟩
    · exact ih hrest g hg

/-- Something that is named as a source and has too long a path stands in the way of a catalog. -/
theorem ofDirectory_ne_ok_of_long {name : Text} (hn : Path.isName name = true) (hsource : isSource ⟨name⟩ = true)
    (hsome : (d.get? (place by' root ++ [name])).isSome) (hlong : pathLimit ≤ (root.child name).text.byteLength) :
    (ofDirectory root).on by' d ≠ (.ok c, d) := by
  have hunreached : checkPath (root.child name) ≠ .ok () := fun hc =>
    absurd (checkPath_eq_ok_iff.mp hc).2 (Nat.not_lt.mpr hlong)
  intro h
  obtain ⟨-, fs, hfs, hadd⟩ := ofDirectory_eq_ok_iff.mp h
  rw [show maxDepth = 4095 + 1 from rfl] at hfs
  obtain ⟨-, g, hg, rfl⟩ := below_succ_eq_ok_iff.mp hfs
  have hname : name ∈ d.names (place by' root) := by
    obtain ⟨e, he⟩ := Option.isSome_iff_exists.mp hsome
    exact mem_names_iff.mpr ⟨e, mem_of_get? (by simp) he⟩
  have hnotDir : d.find? by' (root.child name) ≠ some .dir := fun hdir =>
    hunreached (locate_eq_ok_iff.mp (find?_eq_some_iff.mp hdir).1).1
  -- It counts as a source, since it is not found to be a directory; and it cannot be read.
  have hentry := hg name hname
  rw [ofEntry_of_not_isDir hnotDir, Path.isSource_child hn, if_pos hsource] at hentry
  have hmem : (⟨root.child name, [name]⟩ : SourceFile) ∈ ((d.names (place by' root)).map g).flatten := by
    refine List.mem_flatten.mpr ⟨_, List.mem_map.mpr ⟨name, hname, rfl⟩, ?_⟩
    rw [← Except.ok.inj (Prod.mk.inj hentry).1]
    exact List.mem_singleton.mpr rfl
  obtain ⟨s, hs⟩ := readText_of_addFiles hadd _ (List.mem_mergeSort.mpr hmem)
  obtain ⟨-, hread⟩ := Files.readText_eq_ok_iff.mp hs
  exact hunreached (locate_eq_ok_iff.mp (Files.read_eq_ok_iff.mp hread).1).1

end Catalog
end PluginManual
