import PluginManual.Proofs.ClassHeads
import PluginManual.Proofs.Definitions

/-! What stands before the parameters of a definition in Lua. Behind it, any text with a closed list of parameters is
    read as the definition, whatever follows. -/

namespace PluginManual
namespace LuaDefinition
open Text

variable {d : LuaDefinition} {s run rest target table name inner head : Text}

/-- What stands before the parameters of a definition: the word `function` and what names the function, or an
    assignment to a field of a table. -/
inductive IsHead (d : LuaDefinition) : Text → Prop where
  | function {gap target behind : Text} (hgap : DocLine.IsSpacing gap) (htarget : IsTarget d.table d.isMethod d.name target)
    (hbehind : ∀ c ∈ behind, isSpaceOrTab c = true) : IsHead d ("function".toList ++ (gap ++ (target ++ behind)))
  | assignment {table before gap behind : Text} (htable : d.table = some table) (hmethod : d.isMethod = false)
    (hdotted : IsDotted table) (hname : DocLine.isIdentifier d.name = true) (hbefore : ∀ c ∈ before, isSpaceOrTab c = true)
    (hgap : ∀ c ∈ gap, isSpaceOrTab c = true) (hbehind : ∀ c ∈ behind, isSpaceOrTab c = true) :
    IsHead d (table ++ '.' :: d.name ++ (before ++ '=' :: (gap ++ ("function".toList ++ behind))))

/-- The characters of a name in ASCII, and the dots between names. -/
theorem inRun_of_ascii {c : Char} (h : c.isAlphanum = true ∨ c = '_' ∨ c = '.') : inRun c = true := by
  rcases h with h | rfl | rfl
  · have hrange := toNat_of_isAlphanum h
    have hascii : c.toNat < 0x80 := by omega
    rw [inRun, isWordChar, if_pos hascii, h]
    rfl
  · decide
  · decide

theorem isRun_of_beginsName {c : Char} (hc : beginsName c = true)
    (hs : ∀ x ∈ c :: s, x.isAlphanum = true ∨ x = '_' ∨ x = '.') : IsRun (c :: s) :=
  ⟨⟨c, rfl, hc⟩, fun x hx => inRun_of_ascii (hs x hx)⟩

theorem beginsName_of_isIdentifier (h : DocLine.isIdentifier name = true) : ∃ c s, name = c :: s ∧ beginsName c = true := by
  cases name with
  | nil => cases h
  | cons c s => exact ⟨c, s, rfl, (Bool.and_eq_true_iff.mp h).1⟩

theorem isName_of_isIdentifier (h : DocLine.isIdentifier name = true) : isName name = true := by
  have hchar := DocLine.char_of_isIdentifier h
  obtain ⟨c, s, rfl, hc⟩ := beginsName_of_isIdentifier h
  refine isName_iff.mpr ⟨isRun_of_beginsName hc fun x hx => (hchar x hx).imp_right .inl, fun hdot => ?_⟩
  exact absurd (hchar '.' hdot) (by decide)

theorem isRun_of_isDotted (h : IsDotted table) : IsRun table := by
  obtain ⟨c, s, rfl⟩ := List.exists_cons_of_ne_nil h.ne_nil
  refine isRun_of_beginsName ?_ fun x hx => h.char hx
  -- The first name begins as the table does.
  obtain ⟨first, rest, hsplit⟩ := List.exists_cons_of_ne_nil (splitOn_ne_nil '.' (c :: s))
  have hfirst := h first (hsplit ▸ List.mem_cons_self)
  obtain ⟨d, t, rfl, hd⟩ := beginsName_of_isIdentifier hfirst
  have hjoin := join_splitOn '.' (c :: s)
  rw [hsplit] at hjoin
  have hhead : d = c := by
    cases rest <;> exact (List.cons.inj hjoin).1
  exact hhead ▸ hd

theorem IsTarget.char {table : Option Text} {isMethod : Bool} (h : IsTarget table isMethod name target) :
    ∀ c ∈ target, inRun c = true ∨ c = ':' := by
  cases h with
  | plain hn => exact fun c hc => .inl ((isName_iff.mp hn).1.2 c hc)
  | field ht hn => exact fun c hc => .inl (((isRun_append_iff hn).mpr ht).2 c hc)
  | method ht hn =>
    intro c hc
    rcases List.mem_append.mp hc with hc | hc
    · exact .inl (ht.2 c hc)
    rcases List.mem_cons.mp hc with rfl | hc
    · exact .inr rfl
    · exact .inl ((isName_iff.mp hn).1.2 c hc)

theorem avoids_inRun_of_blank (h : ∀ c ∈ s, isSpaceOrTab c = true) : Avoids inRun s := by
  intro c hc
  have hblank := h c (List.mem_of_mem_head? hc)
  simp only [isSpaceOrTab, Bool.or_eq_true, beq_iff_eq] at hblank
  rcases hblank with rfl | rfl <;> decide

theorem IsHead.char (h : IsHead d head) : ∀ c ∈ head, inRun c = true ∨ isSpaceOrTab c = true ∨ c = ':' ∨ c = '=' := by
  have hword : ∀ c ∈ "function".toList, inRun c = true := List.all_eq_true.mp (by decide)
  intro c hc
  cases h with
  | function hgap htarget hbehind =>
    simp only [List.mem_append] at hc
    rcases hc with hc | hc | hc | hc
    · exact .inl (hword c hc)
    · exact .inr (.inl (hgap.blank c hc))
    · exact (htarget.char c hc).imp_right fun hc => .inr (.inl hc)
    · exact .inr (.inl (hbehind c hc))
  | assignment _ _ hdotted hname hbefore hgap hbehind =>
    rw [List.mem_append] at hc
    rcases hc with hc | hc
    · exact .inl (((isRun_append_iff (isName_of_isIdentifier hname)).mpr (isRun_of_isDotted hdotted)).2 c hc)
    simp only [List.mem_append, List.mem_cons] at hc
    rcases hc with hc | hc | hc | hc | hc
    · exact .inr (.inl (hbefore c hc))
    · exact .inr (.inr (.inr hc))
    · exact .inr (.inl (hgap c hc))
    · exact .inl (hword c hc)
    · exact .inr (.inl (hbehind c hc))

/-- None of the signs that tell lines, documentation and parameters apart stands in the head. -/
theorem IsHead.not_mem (h : IsHead d head) {c : Char}
    (hc : inRun c = false ∧ isSpaceOrTab c = false ∧ c ∉ [':', '=']) : c ∉ head := by
  obtain ⟨hrun, hblank, hsign⟩ := hc
  simp only [List.mem_cons, List.not_mem_nil, or_false, not_or] at hsign
  intro hmem
  rcases h.char c hmem with hc | hc | hc | hc
  · simp [hrun] at hc
  · simp [hblank] at hc
  · exact hsign.1 hc
  · exact hsign.2 hc

theorem IsHead.exists_cons (h : IsHead d head) : ∃ c s, head = c :: s ∧ isBlank c = false := by
  cases h with
  | function => exact ⟨_, _, rfl, by decide⟩
  | assignment _ _ hdotted =>
    obtain ⟨c, s, rfl⟩ := List.exists_cons_of_ne_nil hdotted.ne_nil
    exact ⟨c, _, rfl, hdotted.isWord.solid c List.mem_cons_self⟩

/-- A text that begins with a field of a table does not begin with the word `function`. -/
theorem ofFunction?_eq_none_of_dot (hsolid : ∀ c ∈ run, isBlank c = false) (hdot : '.' ∈ run) :
    ofFunction? (run ++ rest) = none := by
  rw [Option.eq_none_iff_forall_ne_some]
  intro d' hread
  obtain ⟨s, hs, hread⟩ := Option.bind_eq_some_iff.mp hread
  obtain ⟨⟨⟩, hblank, -⟩ := Option.bind_eq_some_iff.mp hread
  have hword : '.' ∉ "function".toList := by decide
  rcases List.append_eq_append_iff.mp (after?_eq_some_iff.mp hs) with ⟨more, rfl, rfl⟩ | ⟨more, hmore, -⟩
  · -- The run would go on behind the word with a blank.
    cases more with
    | nil =>
      rw [List.append_nil] at hdot
      exact hword hdot
    | cons b more =>
      have hb := hsolid b (by simp)
      simp [hb] at hblank
  · exact hword (hmore ▸ List.mem_append_left _ hdot)

/-- A definition with a closed list of parameters is read, whatever follows it. -/
theorem ofText?_of_isHead (h : IsHead d head) (hinner : ')' ∉ inner) (after : Text) :
    ofText? (head ++ '(' :: (inner ++ ')' :: after)) = some { d with args := argNames inner } := by
  have hparen : ∀ {behind : Text}, (∀ c ∈ behind, isSpaceOrTab c = true) →
      Avoids inRun (behind ++ '(' :: (inner ++ ')' :: after)) ∧
        IsArgs (argNames inner) (behind ++ '(' :: (inner ++ ')' :: after)) := fun hbehind =>
    ⟨(avoids_inRun_of_blank hbehind).append (avoids_cons.mpr (by decide)),
      .intro (fun c hc => isBlank_of_isSpaceOrTab (hbehind c hc)) hinner rfl⟩
  cases h with
  | function hgap htarget hbehind =>
    obtain ⟨hend, hargs⟩ := hparen hbehind
    have hread := ofFunction?_of_isTarget (d := { d with args := argNames inner }) hgap.ne_nil hgap.isBlank htarget hend hargs
    simp only [List.append_assoc]
    rw [ofText?, hread]
    rfl
  | @assignment table before gap behind htable hmethod hdotted hname hbefore hgap hbehind =>
    have hread := ofAssignment?_of_isRun (d := { d with args := argNames inner }) htable hmethod (isRun_of_isDotted hdotted)
      (isName_of_isIdentifier hname) (avoids_inRun_of_blank hbefore) (fun c hc => isBlank_of_isSpaceOrTab (hbefore c hc))
      (fun c hc => isBlank_of_isSpaceOrTab (hgap c hc)) (hparen hbehind).2
    have hsolid : ∀ c ∈ table ++ '.' :: d.name, isBlank c = false := by
      refine List.forall_mem_append.mpr ⟨hdotted.isWord.solid, List.forall_mem_cons.mpr ⟨by decide, ?_⟩⟩
      exact (DocLine.isWord_of_isIdentifier hname).solid
    have hcut : table ++ '.' :: d.name ++ (before ++ '=' :: (gap ++ ("function".toList ++ behind))) ++
        '(' :: (inner ++ ')' :: after) = table ++ '.' :: d.name ++ (before ++ '=' :: (gap ++ ("function".toList ++
          (behind ++ '(' :: (inner ++ ')' :: after))))) := by
      simp only [List.append_assoc, List.cons_append]
    rw [hcut, ofText?, ofFunction?_eq_none_of_dot hsolid (by simp), hread]
    rfl

end LuaDefinition
end PluginManual
