import PluginManual.Proofs.Splice
import PluginManual.Proofs.Writes

/-! Regions of documents in files. A replacement that succeeds has found an enclosure among the lines of
    the file and leaves the file with the enclosure filled anew; the file is written only if that makes
    a difference. -/

namespace PluginManual

/-! ### Lines of files -/

namespace Files
open Disk

/-- The lines of the text in a file. -/
def HasLines (by' : Caller) (p : Path) (ls : List Text) (d : Disk) : Prop :=
  ∃ s : Text, d.read by' p = .ok (.text s) ∧ s.lines = ls

variable {d d' : Disk} {by' : Caller} {p : Path} {ls ls' : List Text}

theorem HasLines.unique (h : HasLines by' p ls d) (h' : HasLines by' p ls' d) : ls = ls' := by
  obtain ⟨s, hs, rfl⟩ := h
  obtain ⟨s', hs', rfl⟩ := h'
  rw [hs] at hs'
  cases hs'
  rfl

theorem HasLines.areLines (h : HasLines by' p ls d) : Text.AreLines ls := by
  obtain ⟨s, -, rfl⟩ := h
  exact Text.areLines_lines s

theorem HasLines.read (h : HasLines by' p ls d) : d.read by' p = .ok (.text ls.flatten) := by
  obtain ⟨s, hs, rfl⟩ := h
  rw [Text.flatten_lines, hs]

/-- So they are for every caller in the same directory. -/
theorem HasLines.again {by'' : Caller} (hby : by''.workDir = by'.workDir) (h : HasLines by' p ls d) :
    HasLines by'' p ls d := by
  obtain ⟨s, hs, hls⟩ := h
  exact ⟨s, by rw [read_congr hby, hs], hls⟩

theorem HasLines.of_read (hls : Text.AreLines ls) (h : d.read by' p = .ok (.text ls.flatten)) :
    HasLines by' p ls d := ⟨_, h, hls⟩

end Files

namespace Document
open Files

variable {d d' : Disk} {by' : Caller} {p : Path} {o c : Text} {opening closing : Marker} {m : Multiplicity}
  {new ls : List Text} {changed : Bool} {e : Enclosure}

theorem load_eq_ok_iff {doc : Document} :
    (load p).on by' d = (.ok doc, d') ↔ d' = d ∧ doc.path = p ∧ HasLines by' p doc.lines d := by
  constructor
  · intro h
    rw [load] at h
    obtain ⟨s, d₀, hs, hdoc⟩ := Action.on_bind_eq_ok.mp h
    obtain ⟨rfl, hread⟩ := readText_eq_ok_iff.mp (Action.on_mapError_eq_ok.mp hs)
    cases hdoc
    exact ⟨rfl, rfl, s, hread, rfl⟩
  · obtain ⟨path, lines⟩ := doc
    rintro ⟨rfl, rfl, s, hread, rfl⟩
    refine Action.on_bind_eq_ok.mpr ⟨s, d', ?_, rfl⟩
    exact Action.on_mapError_eq_ok.mpr (readText_eq_ok_iff.mpr ⟨rfl, hread⟩)

theorem readSection_eq_ok_iff (ho : marker o = .ok opening) (hc : marker c = .ok closing) :
    (readSection p o c).on by' d = (.ok ls, d') ↔
      d' = d ∧ ∃ e : Enclosure, HasLines by' p e.lines d ∧ e.inside = ls ∧
        e.Found opening.isAt closing.isAt .first := by
  rw [readSection, ho, hc]
  constructor
  · intro h
    obtain ⟨_, _, ⟨⟩, h⟩ := Action.on_bind_eq_ok.mp h
    obtain ⟨_, _, ⟨⟩, h⟩ := Action.on_bind_eq_ok.mp h
    obtain ⟨doc, d₀, hdoc, hsection⟩ := Action.on_bind_eq_ok.mp h
    obtain ⟨rfl, -, hlines⟩ := load_eq_ok_iff.mp hdoc
    obtain ⟨hlines', rfl⟩ := Action.on_result_eq_ok.mp hsection
    obtain ⟨e, he, hin, f⟩ := Enclosure.sectionLines_eq_ok_iff.mp (sectionLines_eq_ok_iff.mp hlines')
    exact ⟨rfl, e, he ▸ hlines, hin, f⟩
  · rintro ⟨rfl, e, hlines, rfl, f⟩
    refine Action.on_bind_eq_ok.mpr ⟨opening, d', rfl, Action.on_bind_eq_ok.mpr ⟨closing, d', rfl, ?_⟩⟩
    refine Action.on_bind_eq_ok.mpr ⟨⟨p, e.lines⟩, d', load_eq_ok_iff.mpr ⟨rfl, rfl, hlines⟩, ?_⟩
    refine Prod.ext ?_ rfl
    exact sectionLines_eq_ok_iff.mpr (Enclosure.sectionLines_eq_ok_iff.mpr ⟨e, rfl, rfl, f⟩)

/-! ### Replacing in files -/

/-- The lines of a text stay lines of a text when an enclosure among them is filled with whole lines. -/
theorem areLines_fill (h : Text.AreLines e.lines) (hnew : ∀ l ∈ new, Text.IsWhole l) :
    Text.AreLines (e.fill new).lines := by
  have hlines : e.lines = (e.before ++ [e.opening]) ++ (e.inside ++ e.closing :: e.after) := by
    simp [Enclosure.lines]
  have hfill : (e.fill new).lines = (e.before ++ [e.opening]) ++ (new ++ e.closing :: e.after) := by
    simp [Enclosure.lines]
  rw [hlines] at h
  rw [hfill]
  exact .append (h.isWhole (by simp)) (.append hnew h.right.right)

/-- What replacing the lines inside the enclosure `e` of a file by `new` makes of a disk. -/
structure IsRefilled (by' : Caller) (p : Path) (new : List Text) (e : Enclosure) (changed : Bool)
    (d d' : Disk) : Prop where
  before : HasLines by' p e.lines d
  after : HasLines by' p (e.fill (Region.normalLines new)).lines d'
  changed_iff : changed = false ↔ Region.normalLines new = e.inside
  same : changed = false → d' = d
  isPut : changed = true → ∃ content, IsPut by' p content d d'

theorem save_isRefilled {doc : Document} (hlines : HasLines by' p e.lines d)
    (hdoc : doc = ⟨p, (e.fill (Region.normalLines new)).lines⟩) (h : doc.save.on by' d = (.ok changed, d')) :
    IsRefilled by' p new e changed d d' := by
  subst hdoc
  have hnew : Text.AreLines (e.fill (Region.normalLines new)).lines :=
    areLines_fill hlines.areLines Region.isWhole_of_mem_normalLines
  have hsame : d.read by' p = .ok (.text (e.fill (Region.normalLines new)).lines.flatten) ↔
      Region.normalLines new = e.inside := by
    rw [hlines.read, Except.ok.injEq, Content.text.injEq, hlines.areLines.flatten_inj hnew, eq_comm]
    exact Enclosure.fill_lines_inj
  rcases writeIfChanged_eq_ok (Action.on_mapError_eq_ok.mp h) with ⟨rfl, rfl, hread⟩ | ⟨rfl, hread, hwrite⟩
  · exact ⟨hlines, .of_read hnew hread, by simpa using hsame.mp hread, fun _ => rfl, by simp⟩
  · obtain ⟨-, d₁, -, hput, -, hlocated⟩ := writeAtomic_isPut hwrite
    obtain rfl := hlocated _ (read_eq_ok_iff.mp hlines.read).1
    exact ⟨hlines, .of_read hnew hput.read, by simpa using fun heq => hread (hsame.mpr heq), by simp,
      fun _ => ⟨_, hput⟩⟩

theorem replaceSection_isRefilled (ho : marker o = .ok opening) (hc : marker c = .ok closing)
    (h : (replaceSection p o c new m).on by' d = (.ok changed, d')) :
    ∃ e : Enclosure, e.Found opening.isAt closing.isAt m ∧ IsRefilled by' p new e changed d d' := by
  rw [replaceSection, ho, hc] at h
  obtain ⟨_, _, ⟨⟩, h⟩ := Action.on_bind_eq_ok.mp h
  obtain ⟨_, _, ⟨⟩, h⟩ := Action.on_bind_eq_ok.mp h
  obtain ⟨doc, d₀, hdoc, hrest⟩ := Action.on_bind_eq_ok.mp h
  obtain ⟨rfl, rfl, hlines⟩ := load_eq_ok_iff.mp hdoc
  obtain ⟨⟨r, doc'⟩, d₁, hreplace, hsave⟩ := Action.on_bind_eq_ok.mp hrest
  obtain ⟨hreplaced, rfl⟩ := Action.on_result_eq_ok.mp hreplace
  obtain ⟨e, he, f, -, hdoc'⟩ := replace_eq_ok_iff.mp hreplaced
  exact ⟨e, f, save_isRefilled (he ▸ hlines) hdoc' hsave⟩

/-- Nothing is written if the new lines are there already. -/
theorem replaceSection_same (ho : marker o = .ok opening) (hc : marker c = .ok closing)
    (hlines : HasLines by' p e.lines d) (f : e.Found opening.isAt closing.isAt m)
    (hnew : Region.normalLines new = e.inside) :
    (replaceSection p o c new m).on by' d = (.ok false, d) := by
  rw [replaceSection, ho, hc]
  refine Action.on_bind_eq_ok.mpr ⟨opening, d, rfl, Action.on_bind_eq_ok.mpr ⟨closing, d, rfl, ?_⟩⟩
  refine Action.on_bind_eq_ok.mpr ⟨⟨p, e.lines⟩, d, load_eq_ok_iff.mpr ⟨rfl, rfl, hlines⟩, ?_⟩
  have hreplace : (⟨p, e.lines⟩ : Document).replace opening closing new m = .ok (e.region, ⟨p, e.lines⟩) :=
    replace_eq_ok_iff.mpr ⟨e, rfl, f, by rw [hnew]; rfl, by rw [hnew]; rfl⟩
  refine Action.on_bind_eq_ok.mpr ⟨_, d, Prod.ext hreplace rfl, ?_⟩
  exact Action.on_mapError_eq_ok.mpr (writeIfChanged_same hlines.read)

end Document
end PluginManual
