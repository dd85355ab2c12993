import PluginManual.Markdown.Reference
import PluginManual.Proofs.Documentation

/-! The reference of functions consists of whole lines: no text of a catalog can break a line of it. -/

namespace PluginManual
open Text

theorem exists_of_mem_zipWith {α β γ : Type} {f : α → β → γ} {as : List α} {bs : List β} {x : γ}
    (h : x ∈ List.zipWith f as bs) : ∃ a ∈ as, ∃ b ∈ bs, f a b = x := by
  rw [← List.map_uncurry_zip_eq_zipWith] at h
  obtain ⟨⟨a, b⟩, hab, rfl⟩ := List.mem_map.mp h
  exact ⟨a, (List.of_mem_zip hab).1, b, (List.of_mem_zip hab).2, rfl⟩

namespace Table

/-! ### Tables -/

theorem isWhole_line {row : List Text} (widths : List Nat) (h : ∀ cell ∈ row, OneLine cell) :
    IsWhole (line widths row) := by
  have hcells : ∀ cell ∈ List.zipWith padEnd widths row, OneLine cell := by
    intro cell hcell
    obtain ⟨w, -, s, hs, rfl⟩ := exists_of_mem_zipWith hcell
    exact oneLine_padEnd (h s hs) w
  have hjoin : OneLine (join " | " (List.zipWith padEnd widths row)) := oneLine_join (by decide) hcells
  refine ⟨"| " ++ join " | " (List.zipWith padEnd widths row) ++ " |", ?_, by simp [line]⟩
  exact oneLine_append.mpr ⟨oneLine_append.mpr ⟨by decide, hjoin⟩, by decide⟩

theorem isWhole_of_mem_lines {header : List Text} {rows : List (List Text)} (hh : ∀ cell ∈ header, OneLine cell)
    (hr : ∀ row ∈ rows, ∀ cell ∈ row, OneLine cell) : ∀ l ∈ lines header rows, IsWhole l := by
  intro l hl
  rcases List.mem_cons.mp hl with rfl | hl
  · exact isWhole_line _ hh
  rcases List.mem_cons.mp hl with rfl | hl
  · refine isWhole_line _ fun cell hcell => ?_
    obtain ⟨n, -, rfl⟩ := List.mem_map.mp hcell
    exact oneLine_replicate (by decide)
  · obtain ⟨row, hrow, rfl⟩ := List.mem_map.mp hl
    exact isWhole_line _ (hr row hrow)

theorem oneLine_escape {s : Text} (h : OneLine s) : OneLine (escape s) := oneLine_replaceChar (by decide) h

end Table

namespace Reference

variable {c : Catalog} {f : FunctionDoc}

/-! ### Parts of a function's lines -/

theorem oneLine_code {s : Text} (h : OneLine s) : OneLine (code s) := by simp [code, h]

theorem oneLine_typeCell {type : Text} (h : OneLine type) : OneLine (typeCell type) :=
  oneLine_code (Table.oneLine_escape h)

theorem oneLine_signature (h : f.IsOneLine) : OneLine f.signature := by
  have hparams : OneLine (join ", " (f.params.map (·.name))) := by
    refine oneLine_join (by decide) fun s hs => ?_
    obtain ⟨p, hp, rfl⟩ := List.mem_map.mp hs
    exact (h.params p hp).name
  exact oneLine_append.mpr ⟨oneLine_append.mpr ⟨h.name, oneLine_cons.mpr ⟨by decide, hparams⟩⟩, by decide⟩

theorem oneLine_returnTypes (h : ∀ r ∈ f.returns, OneLine r.type) : ∀ types ∈ f.returnTypes, OneLine types := by
  intro types ht
  rw [FunctionDoc.returnTypes] at ht
  split at ht
  · cases ht
  · cases ht
    refine oneLine_join (by decide) fun s hs => ?_
    obtain ⟨r, hr, rfl⟩ := List.mem_map.mp hs
    exact h r hr

theorem isWhole_opening (h : f.IsOneLine) : ∀ l ∈ opening f, IsWhole l := by
  have hsignature := oneLine_signature h
  have hopening : ∃ s, OneLine s ∧ opening f =
      if f.summary.isEmpty then [s ++ ['\n']] else (s ++ " \\\n") :: f.summary.map (· ++ ['\n']) := by
    rw [opening]
    cases ht : f.returnTypes with
    | none => exact ⟨_, oneLine_code hsignature, rfl⟩
    | some types =>
      have htypes := oneLine_returnTypes (fun r hr => (h.returns r hr).type) types ht
      exact ⟨_, oneLine_code (oneLine_append.mpr ⟨oneLine_append.mpr ⟨hsignature, by decide⟩, htypes⟩), rfl⟩
  obtain ⟨s, hs, hopening⟩ := hopening
  intro l hl
  rw [hopening] at hl
  split at hl
  · rw [List.mem_singleton.mp hl]
    exact isWhole_append hs
  · rcases List.mem_cons.mp hl with rfl | hl
    · exact ⟨s ++ " \\", oneLine_append.mpr ⟨hs, by decide⟩, by simp⟩
    · obtain ⟨t, ht, rfl⟩ := List.mem_map.mp hl
      exact isWhole_append (h.summary t ht)

theorem isWhole_paramLines (hc : c.IsOneLine) {ps : List ParamDoc} (hps : ∀ p ∈ ps, p.IsOneLine) :
    ∀ l ∈ paramLines c ps, IsWhole l := by
  intro l hl
  rw [paramLines] at hl
  split at hl
  · cases hl
  rcases List.mem_cons.mp hl with rfl | hl
  · exact isWhole_feed
  refine Table.isWhole_of_mem_lines (by decide) (fun row hrow cell hcell => ?_) l hl
  obtain ⟨p, hp, hrow⟩ := List.mem_flatMap.mp hrow
  have hp := hps p hp
  rcases List.mem_cons.mp hrow with rfl | hrow
  · simp only [List.mem_cons, List.not_mem_nil, or_false] at hcell
    rcases hcell with rfl | rfl | rfl
    · exact hp.name
    · exact oneLine_typeCell hp.type
    · exact Table.oneLine_escape hp.description
  · obtain ⟨v, hv, rfl⟩ := List.mem_map.mp hrow
    have hv := hc.fields p.type v hv
    simp only [List.mem_cons, List.not_mem_nil, or_false] at hcell
    rcases hcell with rfl | rfl | rfl
    · exact oneLine_cons.mpr ⟨by decide, hv.name⟩
    · exact oneLine_typeCell hv.type
    · exact Table.oneLine_escape hv.description

theorem oneLine_returnText {r : ReturnDoc} (h : r.IsOneLine) : OneLine (returnText r) := by
  rw [returnText]
  split
  · next name hname =>
    have hname := h.name name hname
    split
    · exact hname
    · simp [hname, h.description]
  · exact h.description

theorem isWhole_returnLines {rs : List ReturnDoc} (hrs : ∀ r ∈ rs, r.IsOneLine) :
    ∀ l ∈ returnLines rs, IsWhole l := by
  intro l hl
  rw [returnLines] at hl
  split at hl
  · cases hl
  rcases List.mem_cons.mp hl with rfl | hl
  · exact isWhole_feed
  rcases List.mem_cons.mp hl with rfl | hl
  · exact isWhole_append (s := "**Returns:**") (by decide)
  rcases List.mem_cons.mp hl with rfl | hl
  · exact isWhole_feed
  refine Table.isWhole_of_mem_lines (by decide) (fun row hrow cell hcell => ?_) l hl
  obtain ⟨r, hr, rfl⟩ := List.mem_map.mp hrow
  rcases List.mem_cons.mp hcell with rfl | hcell
  · exact oneLine_typeCell (hrs r hr).type
  · exact List.mem_singleton.mp hcell ▸ Table.oneLine_escape (oneLine_returnText (hrs r hr))

theorem isWhole_noteLines (note : Option Text) : ∀ l ∈ noteLines note, IsWhole l := by
  intro l hl
  cases note with
  | none => cases hl
  | some note =>
    rcases List.mem_cons.mp hl with rfl | hl
    · exact isWhole_feed
    rcases List.mem_cons.mp hl with rfl | hl
    · exact isWhole_append (s := "**Note:**") (by decide)
    rcases List.mem_cons.mp hl with rfl | hl
    · exact isWhole_append (s := "<pre>") (by decide)
    rcases List.mem_append.mp hl with hl | hl
    · obtain ⟨s, hs, rfl⟩ := List.mem_map.mp hl
      exact isWhole_append (oneLine_of_mem_bareLines s hs)
    · rw [List.mem_singleton.mp hl]
      exact isWhole_append (s := "</pre>") (by decide)

theorem isWhole_deprecatedLines {deprecated : Option Text} (h : ∀ s ∈ deprecated, OneLine s) :
    ∀ l ∈ deprecatedLines deprecated, IsWhole l := by
  intro l hl
  cases deprecated with
  | none => cases hl
  | some reason =>
    rcases List.mem_cons.mp hl with rfl | hl
    · exact isWhole_feed
    · rw [List.mem_singleton.mp hl]
      split
      · exact isWhole_append (s := "**Deprecated**") (by decide)
      · exact isWhole_append (oneLine_append.mpr ⟨by decide, h reason rfl⟩)

/-! ### All lines -/

theorem isWhole_functionLines (hc : c.IsOneLine) (hf : f.IsOneLine) (level : Nat) :
    ∀ l ∈ functionLines c level f, IsWhole l := by
  have hsignature := oneLine_signature hf
  intro l hl
  rcases List.mem_cons.mp hl with rfl | hl
  · refine isWhole_append (oneLine_append.mpr ⟨oneLine_replicate (by decide), ?_⟩)
    exact oneLine_cons.mpr ⟨by decide, hsignature⟩
  rcases List.mem_cons.mp hl with rfl | hl
  · exact isWhole_feed
  simp only [List.mem_append] at hl
  rcases hl with ((((hl | hl) | hl) | hl) | hl) | hl
  · exact isWhole_opening hf l hl
  · exact isWhole_paramLines hc hf.params l hl
  · exact isWhole_returnLines hf.returns l hl
  · exact isWhole_noteLines _ l hl
  · exact isWhole_deprecatedLines hf.deprecated l hl
  · exact List.mem_singleton.mp hl ▸ isWhole_feed

theorem isWhole_of_mem_lines (hc : c.IsOneLine) (level : Nat) {fs : List FunctionDoc} (hfs : ∀ f ∈ fs, f.IsOneLine) :
    ∀ l ∈ lines c level fs, IsWhole l := by
  intro l hl
  obtain ⟨f, hf, hl⟩ := List.mem_flatMap.mp hl
  exact isWhole_functionLines hc (hfs f hf) level l hl

end Reference
end PluginManual
