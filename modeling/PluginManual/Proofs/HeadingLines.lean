import PluginManual.Proofs.Outline

/-! How a heading is written: at most three spaces, the number signs that tell its level, blanks, and a text, behind
    which more number signs may close it. A line is read as a heading exactly if it is written like that, and the
    text is read as it is, whatever is put around it. -/

namespace PluginManual

namespace Heading
open Text

variable {line text rest body marks s a b : Text} {level : Nat}

/-! ### Number signs that close a heading -/

/-- The number signs behind the body close a heading: nothing comes before them, or a blank. -/
structure IsClosing (body marks : Text) : Prop where
  ne_nil : marks ≠ []
  marks : ∀ c ∈ marks, c = '#'
  body : body = [] ∨ ∃ c ∈ body.getLast?, isSpaceOrTab c = true

def IsClosed (s : Text) : Prop := ∃ body marks, s = body ++ marks ∧ IsClosing body marks

theorem IsClosing.blank_append (h : IsClosing body marks) (ha : ∀ c ∈ a, isSpaceOrTab c = true) :
    IsClosing (a ++ body) marks := by
  refine ⟨h.ne_nil, h.marks, ?_⟩
  rcases h.body with rfl | ⟨c, hc, hblank⟩
  · cases hlast : a.getLast? with
    | none => exact .inl (by simpa using hlast)
    | some c => exact .inr ⟨c, by simpa using hlast, ha c (List.mem_of_getLast? hlast)⟩
  · exact .inr ⟨c, by rw [List.getLast?_append, Option.mem_def.mp hc]; rfl, hblank⟩

theorem IsClosing.of_append (h : IsClosing (a ++ b) marks) (hb : b ≠ []) : IsClosing b marks := by
  refine ⟨h.ne_nil, h.marks, ?_⟩
  rcases h.body with hnil | ⟨c, hc, hblank⟩
  · exact absurd (List.append_eq_nil_iff.mp hnil).2 hb
  · rw [List.getLast?_append_of_ne_nil _ hb] at hc
    exact .inr ⟨c, hc, hblank⟩

theorem withoutClosing_of_isClosing (h : IsClosing body marks) :
    withoutClosing (body ++ marks) = dropEndWhile isSpaceOrTab body := by
  have hmarks : (body ++ marks).reverse.dropWhile (· = '#') = body.reverse.dropWhile (· = '#') := by
    rw [List.reverse_append, List.dropWhile_append_of_pos]
    simpa using h.marks
  unfold withoutClosing
  simp only [hmarks]
  rcases h.body with rfl | ⟨c, hc, hblank⟩
  · rfl
  · obtain ⟨init, rfl⟩ := List.getLast?_eq_some_iff.mp hc
    have hne : c ≠ '#' := by
      rintro rfl
      exact absurd hblank (by decide)
    rw [List.reverse_concat, List.dropWhile_cons_of_neg (by simpa using hne)]
    have hlength : (c :: init.reverse).length < (init ++ [c] ++ marks).length := by
      have := List.length_pos_iff.mpr h.ne_nil
      simp only [List.length_cons, List.length_reverse, List.length_append, List.length_nil]
      omega
    simp only [if_pos (And.intro hlength hblank), dropEndWhile, List.reverse_concat]

theorem withoutClosing_of_not_isClosed (h : ¬ IsClosed s) : withoutClosing s = s := by
  have hcut : s = (s.reverse.dropWhile (· = '#')).reverse ++ (s.reverse.takeWhile (· = '#')).reverse := by
    rw [← List.reverse_append, List.takeWhile_append_dropWhile, List.reverse_reverse]
  have hmarks : ∀ c ∈ (s.reverse.takeWhile (· = '#')).reverse, c = '#' := fun c hc => by
    simpa using List.mem_takeWhile_imp (List.mem_reverse.mp hc)
  unfold withoutClosing
  simp only
  split
  · next hback =>
    rw [hback, List.reverse_nil, List.nil_append] at hcut
    by_contra hne
    exact h ⟨[], s, rfl, Ne.symm hne, hcut ▸ hmarks, .inl rfl⟩
  · next c back hback =>
    split
    · next hclosing =>
      obtain ⟨hlength, hblank⟩ := hclosing
      refine absurd ⟨_, _, hcut, ?_, hmarks, .inr ⟨c, by simp [hback], hblank⟩⟩ h
      intro hnil
      rw [hnil, List.append_nil, hback] at hcut
      have hsame := congrArg List.length hcut
      rw [List.length_reverse] at hsame
      rw [hback] at hlength
      omega
    · rfl

theorem isClosed_iff : IsClosed s ↔ withoutClosing s ≠ s := by
  constructor
  · rintro ⟨body, marks, rfl, hclosing⟩ hsame
    obtain ⟨blanks, hbody, -⟩ := dropEndWhile_eq_iff.mp (rfl : dropEndWhile isSpaceOrTab body = _)
    rw [withoutClosing_of_isClosing hclosing] at hsame
    have hshort := congrArg List.length hbody
    have hlong := congrArg List.length hsame
    have := List.length_pos_iff.mpr hclosing.ne_nil
    simp only [List.length_append] at hshort hlong
    omega
  · exact fun hne => by_contra fun hopen => hne (withoutClosing_of_not_isClosed hopen)

instance (s : Text) : Decidable (IsClosed s) := decidable_of_iff _ isClosed_iff.symm

/-! ### Lines of headings -/

/-- The body is what is left of the rest of a heading line without the blanks at its end and without the number
    signs that close it. -/
inductive Leaves : Text → Text → Prop
  | closed {body marks blanks : Text} : IsClosing body marks → (∀ c ∈ blanks, isSpaceOrTab c = true) →
      Leaves (body ++ (marks ++ blanks)) body
  | plain {body blanks : Text} : ¬ IsClosed body → AvoidsLast isSpaceOrTab body →
      (∀ c ∈ blanks, isSpaceOrTab c = true) → Leaves (body ++ blanks) body

/-- How the line of a heading of some level and with some text is written. -/
inductive IsWritten : Nat → Text → Text → Prop
  | mk {indent level : Nat} {blanks rest body : Text} : indent ≤ 3 → 1 ≤ level → level ≤ 6 → blanks ≠ [] →
      (∀ c ∈ blanks, isSpaceOrTab c = true) → Leaves rest body → Text.isBlank body = false →
      IsWritten level body.trim (spaces indent ++ (List.replicate level '#' ++ (blanks ++ rest)))

/-- Blanks before a body that is not blank go, and nothing else does. -/
theorem exists_suffix (h : Text.isBlank body = false) :
    ∃ a b, body = a ++ b ∧ (∀ c ∈ a, isSpaceOrTab c = true) ∧ b ≠ [] ∧
      ∀ s, (body ++ s).dropWhile isSpaceOrTab = b ++ s := by
  have hne : body.dropWhile isSpaceOrTab ≠ [] := by
    intro hnil
    rw [Bool.eq_false_iff, ne_eq, isBlank_iff] at h
    exact h fun c hc => isBlank_of_isSpaceOrTab (List.dropWhile_eq_nil_iff.mp hnil c hc)
  refine ⟨_, _, List.takeWhile_append_dropWhile.symm, fun c hc => List.mem_takeWhile_imp hc, hne, fun s => ?_⟩
  rw [List.dropWhile_append, List.isEmpty_eq_false_iff.mpr hne, if_neg (by simp)]

theorem trim_dropEndWhile (s : Text) : (dropEndWhile isSpaceOrTab s).trim = s.trim := by
  obtain ⟨b, hs, hb, -⟩ := dropEndWhile_eq_iff.mp (rfl : dropEndWhile isSpaceOrTab s = _)
  conv => rhs; rw [hs]
  exact (trim_append_blank (fun c hc => isBlank_of_isSpaceOrTab (hb c hc)) _).symm

/-- What the reader takes for the text of a heading is the body without the blanks around it. -/
theorem Leaves.trim_eq (h : Leaves rest body) (hbody : Text.isBlank body = false) :
    (withoutClosing (dropEndWhile isSpaceOrTab (rest.dropWhile isSpaceOrTab))).trim = body.trim := by
  obtain ⟨a, b, rfl, ha, hne, hdrop⟩ := exists_suffix hbody
  rw [trim_blank_append fun c hc => isBlank_of_isSpaceOrTab (ha c hc)]
  generalize hab : a ++ b = body at h
  cases h with
  | @closed _ marks blanks hclosing hblanks =>
    subst hab
    have hmarks : AvoidsLast isSpaceOrTab (b ++ marks) := by
      intro c hc
      rw [List.getLast?_append_of_ne_nil _ hclosing.ne_nil] at hc
      rw [hclosing.marks c (List.mem_of_getLast? hc)]
      rfl
    have hend : dropEndWhile isSpaceOrTab (b ++ (marks ++ blanks)) = b ++ marks :=
      dropEndWhile_eq_iff.mpr ⟨blanks, by rw [List.append_assoc], hblanks, hmarks⟩
    rw [hdrop, hend, withoutClosing_of_isClosing (hclosing.of_append hne), trim_dropEndWhile]
  | @plain _ blanks hopen hlast hblanks =>
    subst hab
    have hend : dropEndWhile isSpaceOrTab (b ++ blanks) = b :=
      dropEndWhile_eq_iff.mpr ⟨blanks, rfl, hblanks, fun c hc =>
        hlast c (by rwa [List.getLast?_append_of_ne_nil _ hne])⟩
    have hopen : ¬ IsClosed b := by
      rintro ⟨body, marks, rfl, hclosing⟩
      exact hopen ⟨a ++ body, marks, (List.append_assoc _ _ _).symm, hclosing.blank_append ha⟩
    rw [hdrop, hend, withoutClosing_of_not_isClosed hopen]

/-- Each rest leaves a body. -/
theorem exists_leaves (rest : Text) : ∃ body, Leaves rest body ∧
    (withoutClosing (dropEndWhile isSpaceOrTab rest)).trim = body.trim := by
  obtain ⟨blanks, hrest, hblanks, hlast⟩ := dropEndWhile_eq_iff.mp (rfl : dropEndWhile isSpaceOrTab rest = _)
  generalize dropEndWhile isSpaceOrTab rest = raw at hrest hlast
  subst hrest
  by_cases hclosed : IsClosed raw
  · obtain ⟨body, marks, rfl, hclosing⟩ := hclosed
    rw [List.append_assoc, withoutClosing_of_isClosing hclosing, trim_dropEndWhile]
    exact ⟨body, .closed hclosing hblanks, rfl⟩
  · rw [withoutClosing_of_not_isClosed hclosed]
    exact ⟨raw, .plain hclosed hlast hblanks, rfl⟩

/-- The cuts that the reader makes in the line of a heading. -/
theorem parse?_eq_some_iff : parse? line = some (level, text) ↔
    ∃ indent rest, line = spaces indent ++ (List.replicate level '#' ++ rest) ∧ indent ≤ 3 ∧ 1 ≤ level ∧ level ≤ 6 ∧
      OneLine rest ∧ (∀ c ∈ rest.head?, isSpaceOrTab c = true) ∧ text ≠ [] ∧
      text = (withoutClosing (dropEndWhile isSpaceOrTab (rest.dropWhile isSpaceOrTab))).trim := by
  have hhead : ∀ s : Text, (s.head?.map isSpaceOrTab).getD true = true ↔ ∀ c ∈ s.head?, isSpaceOrTab c = true := by
    intro s
    cases s.head? <;> simp
  unfold parse?
  simp only [Option.bind_eq_bind, Option.bind_eq_some_iff, Option.guard_eq_some', Option.pure_def, Option.some.injEq,
    Prod.mk.injEq, Bool.and_eq_true, decide_eq_true_eq, Bool.not_eq_true', List.isEmpty_eq_false_iff, hhead]
  constructor
  · rintro ⟨rest, hcut, -, ⟨⟨hpos, hle⟩, hfeed⟩, -, hblank, -, hne, rfl, rfl⟩
    obtain ⟨indent, hindent, rfl, -⟩ := withoutIndent?_eq_some_iff.mp hcut
    obtain ⟨hsigns, -⟩ := run_eq_iff.mp ⟨(rfl : (rest.takeWhile (· = '#')).length = _), rfl⟩
    exact ⟨indent, rest.dropWhile (· = '#'), by rw [← hsigns], hindent, hpos, hle, hfeed, hblank, hne, rfl⟩
  · rintro ⟨indent, rest, rfl, hindent, hpos, hle, hfeed, hblank, hne, rfl⟩
    have havoids : Avoids (· = '#') rest := by
      intro c hc
      have hblank := hblank c hc
      simp only [decide_eq_false_iff_not]
      rintro rfl
      exact absurd hblank (by decide)
    obtain ⟨hsigns, hrest⟩ := run_eq_iff.mpr ⟨(rfl : List.replicate level '#' ++ rest = _), havoids⟩
    refine ⟨_, withoutIndent?_eq_some_iff.mpr ⟨indent, hindent, rfl, ?_⟩, ?_⟩
    · cases level with
      | zero => cases hpos
      | succ level => exact avoids_cons.mpr (by decide)
    · rw [hsigns, hrest]
      exact ⟨(), ⟨⟨hpos, hle⟩, hfeed⟩, (), hblank, (), hne, rfl, rfl⟩

/-- The lines read as headings are those that are written as such. -/
theorem parse?_eq_some_iff_isWritten :
    parse? line = some (level, text) ↔ OneLine line ∧ IsWritten level text line := by
  rw [parse?_eq_some_iff]
  constructor
  · rintro ⟨indent, rest, rfl, hindent, hpos, hle, hfeed, hblank, hne, htext⟩
    obtain ⟨body, hleaves, hbody⟩ := exists_leaves (rest.dropWhile isSpaceOrTab)
    rw [hbody] at htext
    subst htext
    have hline : OneLine (spaces indent ++ (List.replicate level '#' ++ rest)) := by
      rw [oneLine_append, oneLine_append]
      exact ⟨oneLine_spaces _, oneLine_replicate (by decide), hfeed⟩
    refine ⟨hline, ?_⟩
    rw [← List.takeWhile_append_dropWhile (p := isSpaceOrTab) (l := rest)]
    refine .mk hindent hpos hle ?_ (fun c hc => List.mem_takeWhile_imp hc) hleaves ?_
    · -- With nothing behind the number signs there would be no text.
      cases rest with
      | nil => exact absurd hbody.symm hne
      | cons c rest =>
        rw [List.takeWhile_cons_of_pos (hblank c rfl)]
        exact List.cons_ne_nil _ _
    · rwa [Bool.eq_false_iff, ne_eq, ← trim_eq_nil_iff]
  · rintro ⟨hline, h⟩
    cases h with
    | @mk indent level blanks rest body hindent hpos hle hne hblanks hleaves hbody =>
      rw [oneLine_append, oneLine_append] at hline
      refine ⟨indent, blanks ++ rest, rfl, hindent, hpos, hle, hline.2.2, ?_, ?_, ?_⟩
      · intro c hc
        rw [List.head?_append_of_ne_nil _ hne] at hc
        exact hblanks c (List.mem_of_mem_head? hc)
      · rwa [ne_eq, trim_eq_nil_iff, Bool.not_eq_true]
      · rw [List.dropWhile_append_of_pos hblanks, hleaves.trim_eq hbody]

/-- The line without its end is written as a heading with the level and the text. -/
def IsHeading (line : Text) (level : Nat) (text : Text) : Prop :=
  OneLine (withoutEnd line) ∧ IsWritten level text (withoutEnd line)

theorem isHeading_iff : IsHeading line level text ↔ parse? (withoutEnd line) = some (level, text) :=
  parse?_eq_some_iff_isWritten.symm

theorem not_isHeading_iff :
    (∀ level text, ¬ IsHeading line level text) ↔ parse? (withoutEnd line) = none := by
  simp only [isHeading_iff]
  cases parse? (withoutEnd line) with
  | none => simp
  | some found => simpa using ⟨found.1, found.2, rfl⟩

/-- No heading is a fence. -/
theorem IsHeading.fence? (h : IsHeading line level text) : Heading.fence? (withoutEnd line) = none := by
  obtain ⟨indent, rest, hline, -, hpos, -⟩ := parse?_eq_some_iff.mp (isHeading_iff.mp h)
  obtain ⟨n, rfl⟩ := Nat.exists_eq_add_of_le' hpos
  rw [hline, List.replicate_succ, List.cons_append, fence?_spaces (by decide)]

theorem headingIn_none (line : Text) : headingIn none line = parse? (withoutEnd line) := by
  cases hparse : parse? (withoutEnd line) with
  | none => cases hfence : Heading.fence? (withoutEnd line) <;> simp [headingIn, hfence, hparse]
  | some found => simp [headingIn, (isHeading_iff.mpr hparse).fence?, hparse]

/-- The line adds headings with these levels and texts to those of the lines before, whatever follows. -/
def Adds (before : List Text) (line : Text) (found : List (Nat × Text)) : Prop :=
  ∃ hs : List Heading, hs.map (fun h => (h.level, h.text)) = found ∧
    ofLines (before ++ [line]) = ofLines before ++ hs ∧
    ∀ more, ofLines before ++ hs <+: ofLines (before ++ line :: more)

theorem Adds.unique {before : List Text} {found other : List (Nat × Text)} (h : Adds before line found)
    (hother : Adds before line other) : found = other := by
  obtain ⟨hs, rfl, hadds, -⟩ := h
  obtain ⟨ks, rfl, hother, -⟩ := hother
  rw [List.append_cancel_left (hadds.symm.trans hother)]

theorem adds_parse? {before : List Text} (hbefore : fenceAfter none before = none) (line : Text) :
    Adds before line (parse? (withoutEnd line)).toList := by
  obtain ⟨hs, hline, hfound⟩ := exists_ofLines_append before [line]
  rw [hbefore, outline_cons, headingIn_none] at hfound
  refine ⟨hs, by simpa [outline] using hfound, hline, fun more => ?_⟩
  obtain ⟨ks, hmore, -⟩ := exists_ofLines_append (before ++ [line]) more
  rw [hline, List.append_assoc, List.singleton_append] at hmore
  exact ⟨ks, hmore.symm⟩

theorem adds_iff {before : List Text} (hbefore : fenceAfter none before = none) {found : List (Nat × Text)} :
    Adds before line found ↔ found = (parse? (withoutEnd line)).toList :=
  ⟨fun h => h.unique (adds_parse? hbefore line), fun h => h ▸ adds_parse? hbefore line⟩

/-! ### Decorated texts -/

/-- What is put around the text of a heading. -/
structure Decoration where
  indent : Nat
  level : Nat
  gap : Text
  closing : Text
  trailing : Text
  ending : Text
  indent_le : indent ≤ 3
  level_pos : 1 ≤ level
  level_le : level ≤ 6
  gap_ne_nil : gap ≠ []
  gap_blank : ∀ c ∈ gap, isSpaceOrTab c = true
  closing_marks : closing = [] ∨ ∃ blanks marks, closing = blanks ++ marks ∧ blanks ≠ [] ∧
    (∀ c ∈ blanks, isSpaceOrTab c = true) ∧ marks ≠ [] ∧ ∀ c ∈ marks, c = '#'
  trailing_blank : ∀ c ∈ trailing, isSpaceOrTab c = true
  ending_mem : ending ∈ [[], ['\n'], ['\r', '\n']]

/-- The text on one line, without blanks around it or number signs that would close the heading. -/
structure IsPlain (t : Text) : Prop where
  oneLine : OneLine t
  trim : t.trim = t
  ne_nil : t ≠ []
  not_isClosed : ¬ IsClosed t

namespace Decoration

variable {d : Decoration} {t : Text}

def before (d : Decoration) : Text := spaces d.indent ++ (List.replicate d.level '#' ++ d.gap)

def after (d : Decoration) : Text := d.closing ++ d.trailing

/-- The line of the heading without its end. -/
def bare (d : Decoration) (t : Text) : Text := d.before ++ (t ++ d.after)

def write (d : Decoration) (t : Text) : Text := d.bare t ++ d.ending

theorem isSpaceOrTab_or_of_mem_before : ∀ c ∈ d.before, isSpaceOrTab c = true ∨ c = '#' := by
  intro c hc
  simp only [before, List.mem_append] at hc
  rcases hc with hc | hc | hc
  · exact .inl (List.eq_of_mem_replicate hc ▸ rfl)
  · exact .inr (List.eq_of_mem_replicate hc)
  · exact .inl (d.gap_blank c hc)

theorem isSpaceOrTab_or_of_mem_after : ∀ c ∈ d.after, isSpaceOrTab c = true ∨ c = '#' := by
  intro c hc
  rcases List.mem_append.mp hc with hc | hc
  · rcases d.closing_marks with hclosing | ⟨blanks, marks, hclosing, -, hblanks, -, hsigns⟩
    · rw [hclosing] at hc
      cases hc
    · rw [hclosing] at hc
      exact (List.mem_append.mp hc).imp (hblanks c) (hsigns c)
  · exact .inl (d.trailing_blank c hc)

theorem avoidsLast_of_trim (h : t.trim = t) : AvoidsLast PluginManual.isBlank t := by
  obtain ⟨-, -, -, hlast⟩ := dropEndWhile_eq_iff.mp h
  exact hlast

theorem exists_leaves_after (ht : IsPlain t) :
    ∃ body, Leaves (t ++ d.after) body ∧ body.trim = t := by
  rcases d.closing_marks with hclosing | ⟨blanks, marks, hclosing, hne, hblanks, hmarks, hsigns⟩
  · refine ⟨t, ?_, ht.trim⟩
    rw [after, hclosing]
    exact .plain ht.not_isClosed ((avoidsLast_of_trim ht.trim).imp fun _ => isBlank_of_isSpaceOrTab) d.trailing_blank
  · refine ⟨t ++ blanks, ?_, ?_⟩
    · have hlast : ∃ c ∈ (t ++ blanks).getLast?, isSpaceOrTab c = true := by
        rw [List.getLast?_append_of_ne_nil _ hne]
        exact ⟨_, List.getLast?_eq_some_getLast hne, hblanks _ (List.getLast_mem hne)⟩
      have := Leaves.closed ⟨hmarks, hsigns, .inr hlast⟩ d.trailing_blank
      rw [after, hclosing]
      simpa only [List.append_assoc] using this
    · rw [trim_append_blank fun c hc => isBlank_of_isSpaceOrTab (hblanks c hc), ht.trim]

theorem isWritten_bare (ht : IsPlain t) : IsWritten d.level t (d.bare t) := by
  obtain ⟨body, hleaves, htrim⟩ := exists_leaves_after (d := d) ht
  have hbody : Text.isBlank body = false := by
    rw [Bool.eq_false_iff, ne_eq, ← trim_eq_nil_iff, htrim]
    exact ht.ne_nil
  have hmk := IsWritten.mk d.indent_le d.level_pos d.level_le d.gap_ne_nil d.gap_blank hleaves hbody
  simpa only [htrim, bare, before, List.append_assoc] using hmk

theorem oneLine_bare (ht : IsPlain t) : OneLine (d.bare t) := by
  have hmarks : ∀ s : Text, (∀ c ∈ s, isSpaceOrTab c = true ∨ c = '#') → OneLine s := fun s hs hc =>
    (hs _ hc).elim (absurd · (by decide)) (absurd · (by decide))
  rw [bare, oneLine_append, oneLine_append]
  exact ⟨hmarks _ isSpaceOrTab_or_of_mem_before, ht.oneLine, hmarks _ isSpaceOrTab_or_of_mem_after⟩

theorem withoutEnd_write (ht : IsPlain t) : withoutEnd (d.write t) = d.bare t := by
  refine dropEndWhile_eq_iff.mpr ⟨d.ending, rfl, ?_, ?_⟩
  · have hending := d.ending_mem
    simp only [List.mem_cons, List.not_mem_nil, or_false] at hending
    rcases hending with h | h | h <;> simp [h]
  · have hmarks : ∀ s : Text, (∀ c ∈ s, isSpaceOrTab c = true ∨ c = '#') →
        AvoidsLast (fun c => c = '\n' || c = '\r') s := by
      intro s hs
      refine avoidsLast_of_forall fun c hc => ?_
      rcases hs c hc with hblank | rfl
      · simp only [isSpaceOrTab, Bool.or_eq_true, beq_iff_eq] at hblank
        rcases hblank with rfl | rfl <;> rfl
      · rfl
    have htext : AvoidsLast (fun c => c = '\n' || c = '\r') t := by
      refine (avoidsLast_of_trim ht.trim).imp fun c hc => ?_
      simp only [Bool.or_eq_true, decide_eq_true_eq] at hc
      rcases hc with rfl | rfl <;> decide
    exact (hmarks _ isSpaceOrTab_or_of_mem_before).append (htext.append (hmarks _ isSpaceOrTab_or_of_mem_after))

end Decoration

/-- Outside of fenced code a line adds a heading exactly if it is written as one, and else it adds none. Whatever
    a text is decorated with, its line adds the heading with that text. -/
theorem adds_iff_isHeading {before : List Text} (hbefore : fenceAfter none before = none) :
    (∀ line level text, Adds before line [(level, text)] ↔ IsHeading line level text) ∧
    (∀ line, Adds before line [] ↔ ∀ level text, ¬ IsHeading line level text) ∧
    ∀ (d : Decoration) (t : Text), IsPlain t → Adds before (d.write t) [(d.level, t)] := by
  have hheading : ∀ line level text, Adds before line [(level, text)] ↔ IsHeading line level text := by
    intro line level text
    rw [isHeading_iff, adds_iff hbefore, eq_comm, Option.toList_eq_singleton_iff]
  refine ⟨hheading, fun line => ?_, fun d t ht => ?_⟩
  · rw [not_isHeading_iff, adds_iff hbefore, eq_comm, Option.toList_eq_nil_iff]
  · rw [hheading, IsHeading, d.withoutEnd_write ht]
    exact ⟨d.oneLine_bare ht, d.isWritten_bare ht⟩

theorem adds_of_number_sign_in_text :
    fenceAfter none ["~~~\n", "# a\n", "~~~\n"] = none ∧
      Adds ["~~~\n", "# a\n", "~~~\n"] "  ###\t C# ##  \r\n" [(3, "C#".toList)] := by
  refine ⟨by decide, ?_⟩
  let d : Decoration := {
    indent := 2, level := 3, gap := "\t ", closing := " ##", trailing := "  ", ending := "\r\n"
    indent_le := by decide, level_pos := by decide, level_le := by decide, gap_ne_nil := by decide
    gap_blank := List.all_eq_true.mp (by decide)
    closing_marks := .inr ⟨" ", "##", rfl, by decide, List.all_eq_true.mp (by decide), by decide,
      fun c hc => List.eq_of_mem_replicate (n := 2) hc⟩
    trailing_blank := List.all_eq_true.mp (by decide)
    ending_mem := by decide }
  exact (adds_iff_isHeading (by decide)).2.2 d "C#" ⟨by decide, by decide, by decide, by decide⟩

end Heading
end PluginManual
