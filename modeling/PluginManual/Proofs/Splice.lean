import PluginManual.Document.Basic
import PluginManual.Proofs.Enclosure
import PluginManual.Proofs.Literal
import PluginManual.Proofs.Runs

/-! Replacing a region of a document. The new lines take the place of those inside and nothing else
    changes; what was written is read back, and writing it again changes nothing, exactly if none of
    the new lines is taken for a marker. -/

namespace PluginManual
namespace Document

variable {d d' : Document} {opening closing : Marker} {m : Multiplicity} {new : List Text} {r : Region}

/-! ### Documents and their lines -/

theorem locate_eq_ok_iff :
    d.locate opening closing m = .ok r ↔ Region.locate opening.isAt closing.isAt m d.lines = .ok r :=
  mapError_eq_ok

theorem sectionLines_eq_ok_iff {ls : List Text} :
    d.sectionLines opening closing = .ok ls ↔
      Region.sectionLines opening.isAt closing.isAt d.lines = .ok ls :=
  mapError_eq_ok

theorem replace_eq_ok_iff :
    d.replace opening closing new m = .ok (r, d') ↔
      ∃ e : Enclosure, e.lines = d.lines ∧ e.Found opening.isAt closing.isAt m ∧
        r = (e.fill (Region.normalLines new)).region ∧
        d' = { d with lines := (e.fill (Region.normalLines new)).lines } := by
  constructor
  · intro h
    unfold replace at h
    split at h
    · next r' lines hr =>
      cases h
      obtain ⟨e, hl, f, rfl, rfl⟩ := Enclosure.replace_eq_ok_iff.mp hr
      exact ⟨e, hl, f, rfl, rfl⟩
    · cases h
  · rintro ⟨e, hl, f, rfl, rfl⟩
    unfold replace
    rw [Enclosure.replace_eq_ok_iff.mpr ⟨e, hl, f, rfl, rfl⟩]

/-! ### Splices -/

/-- What a replacement of the region `old` by `new` makes of a document, `r` being the region as it then
    stands: between the old markers are the new lines, each with a line feed at its end. -/
structure IsSplice (opening closing : Marker) (m : Multiplicity) (new : List Text) (d d' : Document)
    (old r : Region) : Prop where
  located : d.locate opening closing m = .ok old
  path : d'.path = d.path
  lines : d'.lines = d.lines.take (old.opening + 1) ++ Region.normalLines new ++ d.lines.drop old.closing
  opens : r.opening = old.opening
  closes : r.closing = old.opening + 1 + (Region.normalLines new).length
  closingLine : ∃ line, d.lines[old.closing]? = some line ∧ d'.lines[r.closing]? = some line
  /-- The region is found again exactly if no new line closes it and, where there must be one opening
      line only, none opens it. -/
  located_iff : d'.locate opening closing m = .ok r ↔
    (∀ line ∈ Region.normalLines new, closing.isAt line = false) ∧
      (m = .unique → ∀ line ∈ Region.normalLines new, opening.isAt line = false)
  /-- If it is, the new lines are read back, and replacing them by themselves changes nothing. -/
  stable : d'.locate opening closing m = .ok r →
    d'.sectionLines opening closing = .ok (Region.normalLines new) ∧
      d'.replace opening closing new m = .ok (r, d')

theorem replace_isSplice (h : d.replace opening closing new m = .ok (r, d')) :
    ∃ old, IsSplice opening closing m new d d' old r := by
  obtain ⟨e, hl, f, rfl, rfl⟩ := replace_eq_ok_iff.mp h
  refine ⟨e.region, ?_, rfl, ?_, rfl, rfl, ⟨e.closing, ?_, (e.fill _).getElem?_closing⟩, ?_, fun hr => ?_⟩
  · exact locate_eq_ok_iff.mpr (hl ▸ Enclosure.found_iff.mp f)
  · rw [← hl]
    exact (e.splice_region _).symm
  · rw [← hl]
    exact e.getElem?_closing
  · rw [locate_eq_ok_iff, ← Enclosure.found_iff]
    exact f.fill_iff
  · have g := Enclosure.found_iff.mpr (locate_eq_ok_iff.mp hr)
    exact ⟨sectionLines_eq_ok_iff.mpr (Enclosure.sectionLines_eq_ok_iff.mpr ⟨_, rfl, rfl, g.first⟩),
      replace_eq_ok_iff.mpr ⟨_, rfl, g, rfl, rfl⟩⟩

/-- The lines of `a` and `b` take the place of an old one, and the second has its line feed added. -/
theorem replace_isSplice_of_two_lines :
    let d : Document := ⟨⟨"a.md"⟩, ["<\n".toList, "old\n".toList, ">\r\n".toList]⟩
    let d' : Document := ⟨⟨"a.md"⟩, ["<\n".toList, "a\n".toList, "b\n".toList, ">\r\n".toList]⟩
    d.replace (.exactly "<") (.exactly ">") ["a\nb"] .unique = .ok (⟨0, 3⟩, d') ∧
      ∃ old, IsSplice (.exactly "<") (.exactly ">") .unique ["a\nb"] d d' old ⟨0, 3⟩ :=
  ⟨rfl, replace_isSplice rfl⟩

end Document
end PluginManual
