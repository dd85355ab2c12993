import PluginManual.Proofs.Enclosure

/-! Several enclosures of the same lines, each apart from the others. When one is filled anew, those after
    it move; all stay apart, and they are found as before if none of the new lines is taken for a marker. -/

namespace PluginManual

/-! ### Two regions -/

/-- One of the regions ends before the other begins. -/
def Region.Apart (r r' : Region) : Prop := r.closing < r'.opening ∨ r'.closing < r.opening

instance (r r' : Region) : Decidable (r.Apart r') :=
  inferInstanceAs (Decidable (r.closing < r'.opening ∨ r'.closing < r.opening))

namespace Enclosure

variable {e f f' : Enclosure} {new : List Text} {opens closes : Text → Bool} {m : Multiplicity}

theorem region_closing (e : Enclosure) : e.region.closing = e.region.opening + 1 + e.inside.length := rfl

/-- The first enclosure lies before the other one. -/
def Precedes (e f : Enclosure) : Prop :=
  ∃ mid, f.before = e.before ++ e.opening :: (e.inside ++ e.closing :: mid) ∧
    e.after = mid ++ f.opening :: (f.inside ++ f.closing :: f.after)

theorem precedes_of_region (hl : e.lines = f.lines) (h : e.region.closing < f.region.opening) : e.Precedes f := by
  have he : e.lines = (e.before ++ e.opening :: (e.inside ++ [e.closing])) ++ e.after := by simp [lines]
  rw [he, lines] at hl
  rcases List.append_eq_append_iff.mp hl with ⟨mid, hbefore, hafter⟩ | ⟨rest, hbefore, hafter⟩
  · exact ⟨mid, by simp [hbefore], hafter⟩
  · have hlength := congrArg List.length hbefore
    have hrest : rest = [] := by
      simp only [region] at h
      simp only [List.length_append, List.length_cons, List.length_nil] at hlength
      exact List.length_eq_zero_iff.mp (by omega)
    subst hrest
    exact ⟨[], by simpa using hbefore.symm, by simpa using hafter.symm⟩

/-- How an enclosure `f` stands as `f'` after `e`, apart from it, has been filled with new lines. -/
structure IsBeside (e : Enclosure) (new : List Text) (f f' : Enclosure) : Prop where
  lines : f'.lines = (e.fill new).lines
  before : ∀ l ∈ f'.before, l ∈ f.before ∨ l ∈ new
  opening : f'.opening = f.opening
  inside : f'.inside = f.inside
  closing : f'.closing = f.closing
  after : ∀ l ∈ f'.after, l ∈ f.after ∨ l ∈ new
  region : (f.region.closing < e.region.opening ∧ f'.region.opening = f.region.opening) ∨
    (e.region.closing < f.region.opening ∧
      f'.region.opening + e.inside.length = f.region.opening + new.length)

theorem exists_isBeside (hl : e.lines = f.lines) (h : e.region.Apart f.region) (new : List Text) :
    ∃ f', e.IsBeside new f f' := by
  rcases h with h | h
  · obtain ⟨mid, hbefore, hafter⟩ := precedes_of_region hl h
    refine ⟨{ f with before := e.before ++ e.opening :: (new ++ e.closing :: mid) }, ?_, fun l hl => ?_, rfl, rfl,
      rfl, fun l hl => .inl hl, .inr ⟨h, ?_⟩⟩
    · simp [lines, hafter]
    · rw [hbefore]
      simp only [List.mem_append, List.mem_cons] at hl ⊢
      rcases hl with hl | hl | hl | hl
      · exact .inl (.inl hl)
      · exact .inl (.inr (.inl hl))
      · exact .inr hl
      · exact .inl (.inr (.inr (.inr hl)))
    · simp only [region, hbefore, List.length_append, List.length_cons]
      omega
  · obtain ⟨mid, hbefore, hafter⟩ := precedes_of_region hl.symm h
    refine ⟨{ f with after := mid ++ e.opening :: (new ++ e.closing :: e.after) }, ?_, fun l hl => .inl hl, rfl, rfl,
      rfl, fun l hl => ?_, .inl ⟨h, rfl⟩⟩
    · simp [lines, hbefore]
    · rw [hafter]
      simp only [List.mem_append, List.mem_cons] at hl ⊢
      rcases hl with hl | hl | hl | hl
      · exact .inl (.inl hl)
      · exact .inl (.inr (.inl hl))
      · exact .inr hl
      · exact .inl (.inr (.inr (.inr hl)))

theorem IsBeside.found (h : e.IsBeside new f f') (hf : f.Found opens closes m) (hnew : ∀ l ∈ new, opens l = false) :
    f'.Found opens closes m where
  before l hl := (h.before l hl).elim (hf.before l) (hnew l)
  opening := h.opening ▸ hf.opening
  inside := h.inside ▸ hf.inside
  closing := h.closing ▸ hf.closing
  single hm l hl := by
    rw [h.inside, h.closing] at hl
    simp only [List.mem_append, List.mem_cons] at hl
    have hsingle := hf.single hm
    rcases hl with hl | rfl | hl
    · exact hsingle l (by simp [hl])
    · exact hsingle _ (by simp)
    · exact (h.after l hl).elim (fun hl => hsingle l (by simp [hl])) (hnew l)

theorem IsBeside.fill_apart (h : e.IsBeside new f f') : (e.fill new).region.Apart f'.region := by
  have he := e.region_closing
  have hf := f.region_closing
  have hf' := f'.region_closing
  rw [h.inside] at hf'
  rcases h.region with ⟨hlt, heq⟩ | ⟨hlt, heq⟩
  · refine .inr ?_
    show f'.region.closing < e.region.opening
    omega
  · refine .inl ?_
    show e.region.opening + 1 + new.length < f'.region.opening
    omega

/-- Regions beside it stay apart from each other, on whichever side they are. -/
theorem IsBeside.apart {g g' : Enclosure} (hf : e.IsBeside new f f') (hg : e.IsBeside new g g')
    (h : f.region.Apart g.region) : f'.region.Apart g'.region := by
  have he := e.region_closing
  have hclosing := f.region_closing
  have hclosing' := f'.region_closing
  have hgclosing := g.region_closing
  have hgclosing' := g'.region_closing
  rw [hf.inside] at hclosing'
  rw [hg.inside] at hgclosing'
  have hfregion := hf.region
  have hgregion := hg.region
  simp only [Region.Apart] at h ⊢
  omega

/-! ### Families -/

/-- Enclosures of the same lines, one for each part, that are found and lie apart. -/
structure AreApart {ι : Type} (opens closes : ι → Text → Bool) (ls : List Text) (fam : ι → Enclosure) : Prop where
  lines : ∀ i, (fam i).lines = ls
  found : ∀ i, (fam i).Found (opens i) (closes i) .unique
  apart : ∀ i j, i ≠ j → (fam i).region.Apart (fam j).region

/-- Filling one of the enclosures with lines that are no markers leaves the lines inside the others. -/
theorem AreApart.fill {ι : Type} {opens closes : ι → Text → Bool} {ls : List Text} {fam : ι → Enclosure}
    (h : AreApart opens closes ls fam) (i : ι) (hnew : ∀ l ∈ new, ∀ j, opens j l = false ∧ closes j l = false) :
    ∃ fam', AreApart opens closes ((fam i).fill new).lines fam' ∧ (fam' i).inside = new ∧
      ∀ j, j ≠ i → (fam' j).inside = (fam j).inside := by
  -- The one that is filled, and for each of the others how it then stands.
  have hex : ∀ j, ∃ f', (j = i → f' = (fam i).fill new) ∧ (j ≠ i → (fam i).IsBeside new (fam j) f') := by
    intro j
    by_cases hj : j = i
    · exact ⟨_, fun _ => rfl, fun hne => absurd hj hne⟩
    · obtain ⟨f', hf'⟩ := exists_isBeside ((h.lines i).trans (h.lines j).symm) (h.apart i j (Ne.symm hj)) new
      exact ⟨f', fun heq => absurd heq hj, fun _ => hf'⟩
  obtain ⟨fam', hfam'⟩ := Classical.skolem.mp hex
  have hi : fam' i = (fam i).fill new := (hfam' i).1 rfl
  have hbeside : ∀ j, j ≠ i → (fam i).IsBeside new (fam j) (fam' j) := fun j hj => (hfam' j).2 hj
  refine ⟨fam', ⟨fun j => ?_, fun j => ?_, fun j k hjk => ?_⟩, hi ▸ rfl, fun j hj => (hbeside j hj).inside⟩
  · by_cases hj : j = i
    · rw [hj, hi]
    · exact (hbeside j hj).lines
  · by_cases hj : j = i
    · rw [hj, hi]
      exact (h.found i).fill_iff.mpr ⟨fun l hl => (hnew l hl i).2, fun _ l hl => (hnew l hl i).1⟩
    · exact (hbeside j hj).found (h.found j) fun l hl => (hnew l hl j).1
  · by_cases hj : j = i
    · subst hj
      exact hi ▸ (hbeside k (Ne.symm hjk)).fill_apart
    by_cases hk : k = i
    · subst hk
      exact hi ▸ (hbeside j hj).fill_apart.symm
    · exact (hbeside j hj).apart (hbeside k hk) (h.apart j k hjk)

end Enclosure
end PluginManual
