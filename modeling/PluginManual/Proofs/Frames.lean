import PluginManual.Proofs.Documentation
import PluginManual.Proofs.Parts

/-! What the steps read besides the readme file: the catalog of the sources and the default options. A
    file that is neither a source nor the one with the default options can be written without effect on
    either. -/

namespace PluginManual
open Disk

/-! ### Lines of other files -/

namespace Files

variable {d d' : Disk} {by' : Caller} {p q : Path} {c : Content} {ls : List Text} {paths : List Path}
  {news : List Location}

theorem HasLines.of_dirs (h : HasLines by' q ls d) (hdirs : ∀ l, d.get? l = some .dir → d'.get? l = some .dir)
    (hget : d'.get? (place by' q) = d.get? (place by' q)) : HasLines by' q ls d' := by
  obtain ⟨s, hread, rfl⟩ := h
  obtain ⟨hlocate, hfile⟩ := read_eq_ok_iff.mp hread
  have hfile' := hget.trans hfile
  exact ⟨s, read_eq_ok_iff.mpr ⟨locate_of_dirs hdirs hlocate (by rw [hfile']; rfl), hfile'⟩, rfl⟩

theorem HasLines.file (h : HasLines by' q ls d) : ∃ s, d.get? (place by' q) = some (.file (.text s)) := by
  obtain ⟨s, hread, -⟩ := h
  exact ⟨s, (read_eq_ok_iff.mp hread).2⟩

theorem IsPut.hasLines (h : IsPut by' p c d d') (hp : place by' q ≠ place by' p)
    (hpart : place by' q ≠ place by' (partPath by'.id p)) (hlines : HasLines by' q ls d) : HasLines by' q ls d' :=
  hlines.of_dirs (fun _ => h.dir_iff.mpr) (h.get?_eq hp hpart)

/-- What is there after the part has gone was there before. -/
theorem IsPut.hasLines_before (h : IsPut by' p c d d') (hp : place by' q ≠ place by' p)
    (hlines : HasLines by' q ls d') : HasLines by' q ls d := by
  have hpart : place by' q ≠ place by' (partPath by'.id p) := by
    intro heq
    obtain ⟨s, hfile⟩ := hlines.file
    rw [heq, h.part] at hfile
    cases hfile
  exact hlines.of_dirs (fun _ => h.dir_iff.mp) (h.get?_eq hp hpart).symm

theorem IsGrown.hasLines (h : IsGrown by' paths news d d') (hlines : HasLines by' q ls d) : HasLines by' q ls d' := by
  refine hlines.of_dirs h.dirs (h.agree.get?_eq fun hm => ?_)
  obtain ⟨s, hfile⟩ := hlines.file
  rw [h.none _ hm] at hfile
  cases hfile

end Files

/-! ### What steps read -/

namespace Update
open Files

variable {s : Settings} {by' : Caller} {d d' : Disk} {c : Catalog} {fs : List FunctionDoc} {ls : List Text}

theorem reference_eq_ok_iff :
    (reference s).on by' d = (.ok (c, fs), d) ↔
      (Catalog.ofDirectory s.luaDir).on by' d = (.ok c, d) ∧ c.functions? s.mainSource = some fs := by
  rw [reference, ((Catalog.onlyLooks_ofDirectory _).mapError _).readsOnly.on_bind_eq_ok]
  constructor
  · rintro ⟨c', hc, h⟩
    split at h
    · next fs' hfs =>
      cases h
      exact ⟨Action.on_mapError_eq_ok.mp hc, hfs⟩
    · cases h
  · rintro ⟨hc, hfs⟩
    refine ⟨c, Action.on_mapError_eq_ok.mpr hc, ?_⟩
    rw [hfs]
    rfl

theorem marker_defaultsOpening : ∃ m, Document.marker defaultsOpening = .ok m := ⟨_, rfl⟩

theorem marker_defaultsClosing : ∃ m, Document.marker defaultsClosing = .ok m := ⟨_, rfl⟩

/-- The default options are read from lines of their file that are whole. -/
theorem defaultOptions_eq_ok_iff :
    ∃ opening closing : Marker, ∀ by' d d' ls, (defaultOptions s).on by' d = (.ok ls, d') ↔
      d' = d ∧ ∃ e : Enclosure, HasLines by' s.configFile e.lines d ∧ e.inside = ls ∧
        e.Found opening.isAt closing.isAt .first := by
  obtain ⟨opening, ho⟩ := marker_defaultsOpening
  obtain ⟨closing, hc⟩ := marker_defaultsClosing
  refine ⟨opening, closing, fun by' d d' ls => ?_⟩
  rw [defaultOptions, Action.on_mapError_eq_ok]
  exact Document.readSection_eq_ok_iff ho hc

theorem defaultOptions_congr (hlines : ∀ ls, HasLines by' s.configFile ls d → HasLines by' s.configFile ls d')
    (h : (defaultOptions s).on by' d = (.ok ls, d)) : (defaultOptions s).on by' d' = (.ok ls, d') := by
  obtain ⟨opening, closing, hiff⟩ := @defaultOptions_eq_ok_iff s
  obtain ⟨-, e, he, hin, f⟩ := (hiff _ _ _ _).mp h
  exact (hiff _ _ _ _).mpr ⟨rfl, e, hlines _ he, hin, f⟩

theorem isWhole_of_mem_defaultOptions (h : (defaultOptions s).on by' d = (.ok ls, d)) : ∀ l ∈ ls, Text.IsWhole l := by
  obtain ⟨opening, closing, hiff⟩ := @defaultOptions_eq_ok_iff s
  obtain ⟨-, e, he, rfl, -⟩ := (hiff _ _ _ _).mp h
  exact Enclosure.isWhole_of_mem_inside he.areLines

end Update

/-! ### Files apart -/

/-- The file is neither a source nor the one with the default options. -/
structure Settings.IsApart (by' : Caller) (s : Settings) (p : Path) : Prop where
  source : place by' s.luaDir <+: place by' p → SourceFile.isSource p = false
  config : place by' s.configFile ≠ place by' p

namespace Settings

variable {by' : Caller} {root p q : Path} {plugin : Text}

/-- No part is named as a source. -/
theorem place_ne_partPath {name : Text} {id : Nat} (hn : Path.isName name = true)
    (hs : SourceFile.isSource ⟨name⟩ = true) : place by' (q.child name) ≠ place by' (Files.partPath id p) := by
  obtain ⟨dir, name', hpart, hname, hsource⟩ := Path.partPath_eq id p
  rw [hpart, place_child hn, place_child hname]
  intro heq
  rw [← List.singleton_inj.mp (List.append_inj' heq rfl).2, hs] at hsource
  cases hsource

/-- In the usual layout the readme file lies beside the directory of sources. -/
theorem isApart_forPlugin (by' : Caller) (root : Path) (h : Path.isName plugin = true) :
    (forPlugin root plugin).IsApart by' (forPlugin root plugin).readme := by
  have hlua : Path.isName "lua" = true := by decide
  have hreadme : Path.isName "README.md" = true := by decide
  have hconfig : Path.isName "config.lua" = true := by decide
  constructor
  · intro hprefix
    rw [show (forPlugin root plugin).luaDir = root.child "lua" from rfl,
      show (forPlugin root plugin).readme = root.child "README.md" from rfl, place_child hlua, place_child hreadme,
      List.prefix_append_right_inj] at hprefix
    exact absurd hprefix (by decide)
  · rw [show (forPlugin root plugin).configFile = ((root.child "lua").child plugin).child "config.lua" from rfl,
      show (forPlugin root plugin).readme = root.child "README.md" from rfl, place_child hconfig, place_child h,
      place_child hlua, place_child hreadme]
    intro heq
    exact absurd (congrArg List.length heq) (by simp)

theorem config_ne_partPath (by' : Caller) (root : Path) (plugin : Text) (p : Path) :
    place by' (forPlugin root plugin).configFile ≠ place by' (Files.partPath by'.id p) :=
  place_ne_partPath (by decide) (by decide)

end Settings

namespace Update
open Files

variable {s : Settings} {by' : Caller} {p : Path} {d d' : Disk} {content : Content} {c : Catalog}
  {fs : List FunctionDoc} {ls : List Text}

theorem ofDirectory_of_isPut (hp : s.IsApart by' p) (htree : d.IsTree) (htree' : d'.IsTree)
    (h : IsPut by' p content d d') (hc : (Catalog.ofDirectory s.luaDir).on by' d = (.ok c, d)) :
    (Catalog.ofDirectory s.luaDir).on by' d' = (.ok c, d') :=
  Catalog.ofDirectory_eq (SourceFile.alikeBelow_of_isPut htree htree' h hp.source) hc

theorem reference_of_isPut (hp : s.IsApart by' p) (htree : d.IsTree) (htree' : d'.IsTree)
    (h : IsPut by' p content d d') (hc : (reference s).on by' d = (.ok (c, fs), d)) :
    (reference s).on by' d' = (.ok (c, fs), d') := by
  obtain ⟨hc, hfs⟩ := reference_eq_ok_iff.mp hc
  exact reference_eq_ok_iff.mpr ⟨ofDirectory_of_isPut hp htree htree' h hc, hfs⟩

/-! ### After the readme file has been written -/

variable {new : List Text} {e : Enclosure} {changed : Bool}

theorem reference_of_isRefilled (hp : s.IsApart by' p) (htree : d.IsTree) (htree' : d'.IsTree)
    (h : Document.IsRefilled by' p new e changed d d') (hc : (reference s).on by' d = (.ok (c, fs), d)) :
    (reference s).on by' d' = (.ok (c, fs), d') := by
  cases changed with
  | false => exact h.same rfl ▸ hc
  | true =>
    obtain ⟨content, hput⟩ := h.isPut rfl
    exact reference_of_isPut hp htree htree' hput hc

theorem defaultOptions_of_isRefilled (hp : s.IsApart by' p)
    (hpart : place by' s.configFile ≠ place by' (partPath by'.id p))
    (h : Document.IsRefilled by' p new e changed d d') (hls : (defaultOptions s).on by' d = (.ok ls, d)) :
    (defaultOptions s).on by' d' = (.ok ls, d') := by
  cases changed with
  | false => exact h.same rfl ▸ hls
  | true =>
    obtain ⟨content, hput⟩ := h.isPut rfl
    exact defaultOptions_congr (fun _ => hput.hasLines hp.config hpart) hls

/-- The default options that are read after a file has been written were there before: had they been in
    the part, they would be gone. -/
theorem defaultOptions_before_isRefilled (hp : s.IsApart by' p) (h : Document.IsRefilled by' p new e changed d d')
    (hls : (defaultOptions s).on by' d' = (.ok ls, d')) : (defaultOptions s).on by' d = (.ok ls, d) := by
  cases changed with
  | false => exact h.same rfl ▸ hls
  | true =>
    obtain ⟨content, hput⟩ := h.isPut rfl
    exact defaultOptions_congr (fun _ => hput.hasLines_before hp.config) hls

end Update
end PluginManual
