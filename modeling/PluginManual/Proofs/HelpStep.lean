import PluginManual.Proofs.Frames

/-! The step that writes the help file. It may make the directories above the file, and these may lie among
    the sources; the catalog stays as it is unless one of them is named as a source and its path is too
    long to tell that it is none. -/

namespace PluginManual
open Disk

/-! ### Writing a text -/

namespace Files

variable {d d' : Disk} {by' : Caller} {p q : Path} {s : Text} {ls : List Text} {changed : Bool}

theorem writeIfChanged_hasLines (h : (writeIfChanged p s).on by' d = (.ok changed, d'))
    (hp : place by' q ≠ place by' p) (hpart : place by' q ≠ place by' (partPath by'.id p))
    (hlines : HasLines by' q ls d) : HasLines by' q ls d' := by
  rcases writeIfChanged_eq_ok h with ⟨-, rfl, -⟩ | ⟨-, -, hwrite⟩
  · exact hlines
  · obtain ⟨news, d₁, hgrown, hput, -⟩ := writeAtomic_isPut hwrite
    exact hput.hasLines hp hpart (hgrown.hasLines hlines)

end Files

/-! ### The catalog -/

/-- Each directory above the file that lies below that of the sources and is named as a source has, seen
    from there, a path that can be followed. -/
def Settings.CanFollowTo (by' : Caller) (s : Settings) (p : Path) : Prop :=
  ∀ q ∈ p.parent?.elim [] Path.ancestors, ∀ names name, place by' q = place by' s.luaDir ++ names ++ [name] →
    SourceFile.isSource ⟨name⟩ = true → (s.luaDir.descend (names ++ [name])).text.byteLength < pathLimit

/-- So it is if the directories above the file do not lie among the sources. -/
theorem Settings.canFollowTo_of_not_prefix {by' : Caller} {s : Settings} {p : Path}
    (h : ∀ q ∈ p.parent?.elim [] Path.ancestors, ¬place by' s.luaDir <+: place by' q) : s.CanFollowTo by' p := by
  intro q hq names name hplace
  refine absurd ⟨names ++ [name], ?_⟩ (h q hq)
  rw [hplace, List.append_assoc]

namespace Update
open Files

variable {s : Settings} {by' : Caller} {p : Path} {d d' : Disk} {content : Text} {c : Catalog}
  {fs : List FunctionDoc} {ls : List Text} {changed : Bool}

theorem reference_of_writeIfChanged (hp : s.IsApart by' p) (hshort : s.CanFollowTo by' p) (htree : d.IsTree)
    (h : (writeIfChanged p content).on by' d = (.ok changed, d')) (hc : (reference s).on by' d = (.ok (c, fs), d)) :
    (reference s).on by' d' = (.ok (c, fs), d') := by
  have htree' := htree.on h
  rcases writeIfChanged_eq_ok h with ⟨-, rfl, -⟩ | ⟨-, -, hwrite⟩
  · exact hc
  · obtain ⟨news, d₁, hgrown, hput, htree₁, -⟩ := writeAtomic_isPut hwrite
    obtain ⟨hc, hfs⟩ := reference_eq_ok_iff.mp hc
    have hc₁ := Catalog.ofDirectory_eq (SourceFile.alikeBelow_of_isGrown htree (htree₁ htree) hgrown hshort) hc
    exact reference_of_isPut hp (htree₁ htree) htree' hput (reference_eq_ok_iff.mpr ⟨hc₁, hfs⟩)

/-! ### The step -/

theorem perform_help_eq_ok_iff :
    (perform s .help).on by' d = (.ok changed, d') ↔
      ∃ c fs ls, (reference s).on by' d = (.ok (c, fs), d) ∧ (defaultOptions s).on by' d = (.ok ls, d) ∧
        (writeIfChanged s.helpFile (helpFile s ls c fs).lines.flatten).on by' d = (.ok changed, d') := by
  constructor
  · intro h
    obtain ⟨⟨c, fs⟩, hc, h⟩ := (ReadmePart.readsOnly_reference s).on_bind_eq_ok.mp h
    obtain ⟨ls, hls, h⟩ := (ReadmePart.readsOnly_defaultOptions s).on_bind_eq_ok.mp h
    exact ⟨c, fs, ls, hc, hls, Action.on_mapError_eq_ok.mp h⟩
  · rintro ⟨c, fs, ls, hc, hls, h⟩
    refine Action.on_bind_eq_ok.mpr ⟨(c, fs), d, hc, Action.on_bind_eq_ok.mpr ⟨ls, d, hls, ?_⟩⟩
    exact Action.on_mapError_eq_ok.mpr h

end Update
end PluginManual
