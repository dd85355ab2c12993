import PluginManual.Proofs.HeadingLines

/-! Fenced code as Markdown defines it. A fence opens code outside of code only, and not if it is the beginning of
    some inline code; it closes code only if nothing comes behind it. The reader of headings takes each fence for one
    that opens, or for one that closes if it is long enough, so it reads a text right exactly as long as there is no
    fence that Markdown takes for prose or for a line of the code. -/

namespace PluginManual

namespace Fence
open Text Heading

variable {f g : Fence} {line rest : Text}

/-! ### Fences -/

/-- The line is the fence behind at most three spaces, with the rest behind it. -/
def IsAt (f : Fence) (rest line : Text) : Prop :=
  ∃ indent ≤ 3, line = spaces indent ++ (List.replicate f.length f.mark ++ rest) ∧
    (f.mark = '\x60' ∨ f.mark = '~') ∧ 3 ≤ f.length ∧ Avoids (· = f.mark) rest

/-- The line opens the fence outside of fenced code. -/
def Opens (f : Fence) (line : Text) : Prop :=
  ∃ rest, f.IsAt rest (withoutEnd line) ∧ (f.mark = '\x60' → '\x60' ∉ rest)

/-- The line closes what the fence has opened. -/
def Closes (f : Fence) (line : Text) : Prop :=
  ∃ g rest, IsAt g rest (withoutEnd line) ∧ g.mark = f.mark ∧ f.length ≤ g.length ∧
    ∀ c ∈ rest, isSpaceOrTab c = true

/-- What is behind the marks of a fence. -/
def info (f : Fence) (line : Text) : Text := (line.dropWhile (· = ' ')).drop f.length

theorem IsAt.dropWhile_eq (h : f.IsAt rest line) :
    line.dropWhile (· = ' ') = List.replicate f.length f.mark ++ rest := by
  obtain ⟨indent, -, rfl, hmark, hlength, -⟩ := h
  refine dropWhile_spaces indent ?_
  obtain ⟨n, hn⟩ := Nat.exists_eq_add_of_le' hlength
  rw [hn, List.replicate_succ, List.cons_append]
  rcases hmark with hmark | hmark <;> rw [hmark] <;> exact avoids_cons.mpr (by decide)

theorem IsAt.info_eq (h : f.IsAt rest line) : f.info line = rest := by
  rw [info, h.dropWhile_eq, List.drop_left' List.length_replicate]

theorem fence?_eq_some_iff : fence? line = some f ↔ ∃ rest, f.IsAt rest line := by
  simp only [fence?, Option.bind_eq_bind, Option.bind_eq_some_iff, Option.guard_eq_some', Option.pure_def,
    Option.some.injEq, Bool.or_eq_true, decide_eq_true_eq]
  constructor
  · rintro ⟨s, hs, mark, -, -, hmark, -, hlength, rfl⟩
    obtain ⟨indent, hindent, rfl, -⟩ := withoutIndent?_eq_some_iff.mp hs
    obtain ⟨hrun, havoids⟩ := run_eq_iff.mp ⟨(rfl : (s.takeWhile (· = mark)).length = _), rfl⟩
    exact ⟨_, indent, hindent, congrArg _ hrun, hmark, hlength, havoids⟩
  · rintro ⟨rest, h⟩
    have hcut := h.dropWhile_eq
    obtain ⟨indent, hindent, rfl, hmark, hlength, havoids⟩ := h
    have hspace : Avoids (· = ' ') (List.replicate f.length f.mark ++ rest) := hcut ▸ avoids_dropWhile _ _
    obtain ⟨hrun, -⟩ := run_eq_iff.mpr ⟨(rfl : List.replicate f.length f.mark ++ rest = _), havoids⟩
    refine ⟨_, withoutIndent?_eq_some_iff.mpr ⟨indent, hindent, rfl, hspace⟩, f.mark, ?_, (), hmark, (), ?_, ?_⟩
    · rw [List.head?_append_of_ne_nil _ (by simp; omega), List.head?_replicate, if_neg (by omega)]
    · rwa [hrun]
    · rw [hrun]

theorem isAt_iff : f.IsAt rest line ↔ fence? line = some f ∧ f.info line = rest := by
  constructor
  · exact fun h => ⟨fence?_eq_some_iff.mpr ⟨rest, h⟩, h.info_eq⟩
  · rintro ⟨hfence, rfl⟩
    obtain ⟨rest, h⟩ := fence?_eq_some_iff.mp hfence
    rwa [h.info_eq]

theorem opens_iff : f.Opens line ↔ fence? (withoutEnd line) = some f ∧
    (f.mark = '\x60' → '\x60' ∉ f.info (withoutEnd line)) := by
  simp [Opens, isAt_iff, and_assoc]

theorem closes_iff : f.Closes line ↔ ∃ g ∈ fence? (withoutEnd line), g.mark = f.mark ∧ f.length ≤ g.length ∧
    (g.info (withoutEnd line)).all isSpaceOrTab = true := by
  simp [Closes, isAt_iff, and_assoc]

instance (f : Fence) (line : Text) : Decidable (f.Opens line) := decidable_of_iff _ opens_iff.symm

instance (f : Fence) (line : Text) : Decidable (f.Closes line) := decidable_of_iff _ closes_iff.symm

theorem not_opens_of_isHeading {level : Nat} {text : Text} (h : IsHeading line level text) (f : Fence) :
    ¬ f.Opens line := by
  rw [opens_iff, h.fence?]
  simp

theorem not_closes_of_isHeading {level : Nat} {text : Text} (h : IsHeading line level text) (f : Fence) :
    ¬ f.Closes line := by
  rw [closes_iff, h.fence?]
  simp

/-! ### What the reader makes of a fence -/

/-- The line is no fence that the reader would take for the end of the code. -/
def StaysOpen (f : Fence) (line : Text) : Prop :=
  ∀ g rest, IsAt g rest (withoutEnd line) → g.mark = f.mark → g.length < f.length

theorem staysOpen_iff : f.StaysOpen line ↔
    ∀ g ∈ fence? (withoutEnd line), g.mark = f.mark → g.length < f.length := by
  simp [StaysOpen, isAt_iff]

instance (f : Fence) (line : Text) : Decidable (f.StaysOpen line) := decidable_of_iff _ staysOpen_iff.symm

theorem fenceAfterLine_of_opens (h : f.Opens line) : fenceAfterLine none line = some f := by
  simp [fenceAfterLine, openAfter, (opens_iff.mp h).1]

theorem fenceAfterLine_of_closes (h : f.Closes line) : fenceAfterLine (some f) line = none := by
  obtain ⟨g, hg, hmark, hlength, -⟩ := closes_iff.mp h
  simp [fenceAfterLine, openAfter, Option.mem_def.mp hg, hmark, hlength]

theorem headingIn_some (f : Fence) (line : Text) : headingIn (some f) line = none := by
  cases hfence : fence? (withoutEnd line) <;> simp [headingIn, hfence]

theorem headingIn_of_opens (h : f.Opens line) : headingIn none line = none := by
  simp [headingIn, (opens_iff.mp h).1]

theorem StaysOpen.fenceAfterLine (h : f.StaysOpen line) : Heading.fenceAfterLine (some f) line = some f := by
  cases hfence : fence? (withoutEnd line) with
  | none => simp [Heading.fenceAfterLine, hfence]
  | some g =>
    have hopen : ¬ (g.mark = f.mark ∧ f.length ≤ g.length) := by
      rintro ⟨hmark, hlength⟩
      exact absurd (staysOpen_iff.mp h g hfence hmark) (Nat.not_lt.mpr hlength)
    simp only [Heading.fenceAfterLine, hfence, openAfter, if_neg hopen]

theorem fenceAfterLine_of_not_staysOpen (h : ¬ f.StaysOpen line) : fenceAfterLine (some f) line = none := by
  simp only [staysOpen_iff, not_forall, Nat.not_lt] at h
  obtain ⟨g, hg, hmark, hlength⟩ := h
  simp [fenceAfterLine, openAfter, Option.mem_def.mp hg, hmark, hlength]

theorem outline_of_staysOpen {inside : List Text} (h : ∀ l ∈ inside, f.StaysOpen l) (more : List Text) :
    outline (some f) (inside ++ more) = outline (some f) more := by
  induction inside with
  | nil => rfl
  | cons l inside ih =>
    rw [List.cons_append, outline_cons, headingIn_some, (h l List.mem_cons_self).fenceAfterLine]
    exact ih fun k hk => h k (List.mem_cons_of_mem l hk)

end Fence

/-! ### Passages -/

/-- A passage of a Markdown text: a line outside of fenced code, or fenced code from the line that opens it to the
    line that closes it, if there is one. -/
inductive Passage
  | heading (line : Text) (level : Nat) (text : Text)
  | prose (line : Text)
  | code (fence : Fence) (opening : Text) (inside : List Text) (closing : Option Text)

namespace Passage
open Text Heading

variable {p q : Passage} {ps qs : List Passage}

def lines : Passage → List Text
  | heading line _ _ => [line]
  | prose line => [line]
  | code _ opening inside closing => opening :: (inside ++ closing.toList)

def heading? : Passage → Option (Nat × Text)
  | heading _ level text => some (level, text)
  | prose _ => none
  | code .. => none

/-- The passage is what Markdown takes its lines for, outside of fenced code. -/
def IsProper : Passage → Prop
  | heading line level text => IsHeading line level text
  | prose line => (∀ f : Fence, ¬ f.Opens line) ∧ ∀ level text, ¬ IsHeading line level text
  | code f opening inside closing => f.Opens opening ∧ (∀ l ∈ inside, ¬ f.Closes l) ∧ ∀ l ∈ closing, f.Closes l

def IsEnded : Passage → Prop
  | heading .. => True
  | prose _ => True
  | code _ _ _ closing => closing.isSome

/-- The passages are proper, and only at the end of the text there may be fenced code that is not closed. -/
inductive AreProper : List Passage → Prop
  | nil : AreProper []
  | cons {p : Passage} {ps : List Passage} : p.IsProper → p.IsEnded ∨ ps = [] → AreProper ps → AreProper (p :: ps)

/-- The reader takes no line of the passage for a fence that opens or closes code where Markdown does not. -/
def IsClear : Passage → Prop
  | heading .. => True
  | prose line => ∀ f rest, ¬ Fence.IsAt f rest (withoutEnd line)
  | code f _ inside _ => ∀ l ∈ inside, f.StaysOpen l

theorem lines_ne_nil (p : Passage) : p.lines ≠ [] := by
  cases p <;> exact List.cons_ne_nil _ _

/-! ### Each text has one division into passages -/

/-- A passage that goes on to the end of the text need not be ended. -/
theorem exists_isProper (line : Text) (rest : List Text) :
    ∃ (p : Passage) (more : List Text), p.lines ++ more = line :: rest ∧ p.IsProper ∧ (p.IsEnded ∨ more = []) := by
  by_cases hopens : ∃ f : Fence, f.Opens line
  · obtain ⟨f, hopens⟩ := hopens
    cases hfind : rest.find? (fun l => decide (f.Closes l)) with
    | none =>
      rw [List.find?_eq_none] at hfind
      refine ⟨code f line rest none, [], by simp [lines], ⟨hopens, fun l hl => ?_, by simp⟩, .inr rfl⟩
      simpa using hfind l hl
    | some closing =>
      obtain ⟨hcloses, inside, more, rfl, hinside⟩ := List.find?_eq_some_iff_append.mp hfind
      refine ⟨code f line inside (some closing), more, by simp [lines], ⟨hopens, fun l hl => ?_, ?_⟩, .inl rfl⟩
      · simpa using hinside l hl
      · simpa using hcloses
  · rw [not_exists] at hopens
    by_cases hheading : ∃ level text, IsHeading line level text
    · obtain ⟨level, text, hheading⟩ := hheading
      exact ⟨heading line level text, rest, rfl, hheading, .inl trivial⟩
    · refine ⟨prose line, rest, rfl, ⟨hopens, fun level text h => hheading ⟨level, text, h⟩⟩, .inl trivial⟩

theorem exists_areProper (ls : List Text) : ∃ ps, AreProper ps ∧ ps.flatMap lines = ls := by
  match ls with
  | [] => exact ⟨[], .nil, rfl⟩
  | line :: rest =>
    obtain ⟨p, more, hlines, hp, hended⟩ := exists_isProper line rest
    have hshort : more.length < rest.length + 1 := by
      have := List.length_pos_iff.mpr p.lines_ne_nil
      rw [← List.length_cons (a := line), ← hlines, List.length_append]
      omega
    rcases hended with hended | rfl
    · obtain ⟨ps, hps, rfl⟩ := exists_areProper more
      exact ⟨p :: ps, .cons hp (.inl hended) hps, hlines⟩
    · exact ⟨[p], .cons hp (.inr rfl) .nil, hlines⟩
termination_by ls.length

/-- What comes before the first element of a kind, this element, and what comes behind it. -/
theorem first_eq {α : Type} {r : α → Prop} [DecidablePred r] {l a c : List α} {b : Option α} (ha : ∀ x ∈ a, ¬ r x)
    (hb : ∀ x ∈ b, r x) (hc : b = none → c = []) (hl : l = a ++ (b.toList ++ c)) :
    l.takeWhile (¬ r ·) = a ∧ (l.dropWhile (¬ r ·)).head? = b ∧ (l.dropWhile (¬ r ·)).tail = c := by
  rw [hl, List.takeWhile_append_of_pos (by simpa using ha), List.dropWhile_append_of_pos (by simpa using ha)]
  cases b with
  | none => simp [hc rfl]
  | some x => simp [hb x rfl]

/-- The first line of a text tells the kind of its first passage, and the first line that closes it how long it is. -/
theorem IsProper.unique {more more' : List Text} (hp : p.IsProper) (hq : q.IsProper)
    (hpe : p.IsEnded ∨ more = []) (hqe : q.IsEnded ∨ more' = [])
    (h : p.lines ++ more = q.lines ++ more') : p = q ∧ more = more' := by
  cases p with
  | heading line level text =>
    cases q with
    | heading line' level' text' =>
      obtain ⟨rfl, rfl⟩ := List.cons.inj h
      cases (isHeading_iff.mp hp).symm.trans (isHeading_iff.mp hq)
      exact ⟨rfl, rfl⟩
    | prose line' =>
      obtain ⟨rfl, -⟩ := List.cons.inj h
      exact absurd hp (hq.2 level text)
    | code f opening inside closing =>
      obtain ⟨rfl, -⟩ := List.cons.inj h
      exact absurd hq.1 (Fence.not_opens_of_isHeading hp f)
  | prose line =>
    cases q with
    | heading line' level text =>
      obtain ⟨rfl, -⟩ := List.cons.inj h
      exact absurd hq (hp.2 level text)
    | prose line' =>
      obtain ⟨rfl, rfl⟩ := List.cons.inj h
      exact ⟨rfl, rfl⟩
    | code f opening inside closing =>
      obtain ⟨rfl, -⟩ := List.cons.inj h
      exact absurd hq.1 (hp.1 f)
  | code f opening inside closing =>
    cases q with
    | heading line' level text =>
      obtain ⟨rfl, -⟩ := List.cons.inj h
      exact absurd hp.1 (Fence.not_opens_of_isHeading hq f)
    | prose line' =>
      obtain ⟨rfl, -⟩ := List.cons.inj h
      exact absurd hp.1 (hq.1 f)
    | code g opening' inside' closing' =>
      obtain ⟨rfl, htail⟩ := List.cons.inj h
      obtain rfl : f = g := Option.some.inj ((Fence.opens_iff.mp hp.1).1.symm.trans (Fence.opens_iff.mp hq.1).1)
      have hend : ∀ {last : Option Text} {rest : List Text},
          last.isSome ∨ rest = [] → last = none → rest = [] := by
        rintro last rest (hsome | hnil) rfl
        · cases hsome
        · exact hnil
      obtain ⟨hinside', hclosing', hmore'⟩ := first_eq hp.2.1 hp.2.2 (hend hpe) (List.append_assoc ..)
      obtain ⟨hinside, hclosing, hmore⟩ := first_eq hq.2.1 hq.2.2 (hend hqe) (htail.trans (List.append_assoc ..))
      exact ⟨congrArg₂ (code f opening) (hinside'.symm.trans hinside) (hclosing'.symm.trans hclosing),
        hmore'.symm.trans hmore⟩

theorem AreProper.unique (hps : AreProper ps) (hqs : AreProper qs)
    (h : ps.flatMap lines = qs.flatMap lines) : ps = qs := by
  induction hps generalizing qs with
  | nil =>
    cases hqs with
    | nil => rfl
    | @cons q qs _ _ _ => exact absurd (List.append_eq_nil_iff.mp h.symm).1 q.lines_ne_nil
  | @cons p ps hp hpe _ ih =>
    cases hqs with
    | nil => exact absurd (List.append_eq_nil_iff.mp h).1 p.lines_ne_nil
    | @cons q qs hq hqe hqs =>
      rw [List.flatMap_cons, List.flatMap_cons] at h
      obtain ⟨rfl, hrest⟩ := hp.unique hq (hpe.imp_right (· ▸ rfl)) (hqe.imp_right (· ▸ rfl)) h
      rw [ih hqs hrest]

/-! ### The headings of clear passages -/

theorem outline_append_of_isClear {more : List Text} (hp : p.IsProper) (hclear : p.IsClear)
    (hended : p.IsEnded ∨ more = []) :
    outline none (p.lines ++ more) = p.heading?.toList ++ outline none more := by
  cases p with
  | heading line level text =>
    have hstate : fenceAfterLine none line = none := by simp [fenceAfterLine, IsHeading.fence? hp]
    rw [lines, List.singleton_append, outline_cons, headingIn_none, isHeading_iff.mp hp, hstate]
    rfl
  | prose line =>
    have hfence : fence? (withoutEnd line) = none := by
      rw [Option.eq_none_iff_forall_ne_some]
      intro f hf
      obtain ⟨rest, hat⟩ := Fence.fence?_eq_some_iff.mp hf
      exact hclear f rest hat
    have hstate : fenceAfterLine none line = none := by simp [fenceAfterLine, hfence]
    rw [lines, List.singleton_append, outline_cons, headingIn_none, not_isHeading_iff.mp hp.2, hstate]
    rfl
  | code f opening inside closing =>
    obtain ⟨hopens, -, hcloses⟩ := hp
    rw [lines, List.cons_append, outline_cons, Fence.headingIn_of_opens hopens, Fence.fenceAfterLine_of_opens hopens,
      List.append_assoc, Fence.outline_of_staysOpen hclear]
    cases closing with
    | none =>
      obtain rfl := hended.resolve_left (by simp [IsEnded])
      rfl
    | some l =>
      rw [Option.toList_some, List.singleton_append, outline_cons, Fence.headingIn_some,
        Fence.fenceAfterLine_of_closes (hcloses l rfl)]
      rfl

theorem filterMap_heading?_cons (p : Passage) (ps : List Passage) :
    (p :: ps).filterMap heading? = p.heading?.toList ++ ps.filterMap heading? := by
  cases hp : p.heading? <;> simp [hp]

theorem outline_of_isClear (hps : AreProper ps) (hclear : ∀ p ∈ ps, p.IsClear) :
    outline none (ps.flatMap lines) = ps.filterMap heading? := by
  induction hps with
  | nil => rfl
  | @cons p ps hp hended _ ih =>
    rw [List.flatMap_cons, outline_append_of_isClear hp (hclear p List.mem_cons_self) (hended.imp_right (· ▸ rfl)),
      ih fun q hq => hclear q (List.mem_cons_of_mem p hq), filterMap_heading?_cons]

/-! ### The headings after other passages -/

/-- Of the lines, the reader does not list the headings that Markdown has there. -/
def IsMisread (ls : List Text) : Prop :=
  ∃ qs, AreProper qs ∧ qs.flatMap lines = ls ∧
    (Heading.ofLines ls).map (fun h => (h.level, h.text)) ≠ qs.filterMap heading?

theorem isMisread_iff {ls : List Text} : IsMisread ls ↔
    ∃ qs, AreProper qs ∧ qs.flatMap lines = ls ∧ outline none ls ≠ qs.filterMap heading? := by
  rw [IsMisread, map_found_ofLines]

section
variable {probe text : Text} {level : Nat}

/-- Behind a passage that is not clear, some heading is not listed though it is outside of fenced code, or is listed
    though it is inside. -/
theorem exists_isMisread_of_not_isClear (hprobe : IsHeading probe level text) (hp : p.IsProper)
    (hclear : ¬ p.IsClear) : ∃ before, before <+: p.lines ∧ IsMisread (before ++ [probe]) := by
  cases p with
  | heading line level text => exact absurd trivial hclear
  | prose line =>
    simp only [IsClear, not_forall, not_not] at hclear
    obtain ⟨f, rest, hat⟩ := hclear
    have hfence := (Fence.isAt_iff.mp hat).1
    have hstate : fenceAfterLine none line = some f := by simp [fenceAfterLine, openAfter, hfence]
    have hline : headingIn none line = none := by simp [headingIn, hfence]
    refine ⟨[line], List.prefix_refl _, isMisread_iff.mpr ⟨[prose line, heading probe level text],
      .cons hp (.inl trivial) (.cons hprobe (.inr rfl) .nil), rfl, ?_⟩⟩
    rw [List.singleton_append, outline_cons, hline, hstate, outline_cons, Fence.headingIn_some]
    simp [outline, heading?]
  | code f opening inside closing =>
    obtain ⟨hopens, hinside, -⟩ := hp
    cases hfind : inside.find? (fun l => decide (¬ f.StaysOpen l)) with
    | none =>
      refine absurd (fun l hl => ?_) hclear
      simpa using List.find?_eq_none.mp hfind l hl
    | some l =>
      obtain ⟨hl, a, b, rfl, ha⟩ := List.find?_eq_some_iff_append.mp hfind
      have hstays : ∀ k ∈ a, f.StaysOpen k := fun k hk => by simpa using ha k hk
      have hinside' : ∀ k ∈ a ++ [l, probe], ¬ f.Closes k := by
        intro k hk
        simp only [List.mem_append, List.mem_cons, List.not_mem_nil, or_false] at hk
        rcases hk with hk | rfl | rfl
        · exact hinside k (List.mem_append_left _ hk)
        · exact hinside k (List.mem_append_right a List.mem_cons_self)
        · exact Fence.not_closes_of_isHeading hprobe f
      refine ⟨opening :: (a ++ [l]), ⟨b ++ closing.toList, by simp [lines]⟩, isMisread_iff.mpr
        ⟨[code f opening (a ++ [l, probe]) none], .cons ⟨hopens, hinside', by simp⟩ (.inr rfl) .nil,
          by simp [lines], ?_⟩⟩
      rw [List.cons_append, outline_cons, Fence.headingIn_of_opens hopens, Fence.fenceAfterLine_of_opens hopens,
        List.append_assoc, Fence.outline_of_staysOpen hstays, List.singleton_append, outline_cons,
        Fence.headingIn_some, Fence.fenceAfterLine_of_not_staysOpen (by simpa using hl), outline_cons, headingIn_none,
        isHeading_iff.mp hprobe]
      exact List.cons_ne_nil _ _

theorem exists_isMisread (hprobe : IsHeading probe level text) (hps : AreProper ps)
    (hclear : ¬ ∀ p ∈ ps, p.IsClear) : ∃ before, before <+: ps.flatMap lines ∧ IsMisread (before ++ [probe]) := by
  induction hps with
  | nil => exact absurd (by simp) hclear
  | @cons p ps hp hended _ ih =>
    rw [List.flatMap_cons]
    -- Clear passages leave no code open, so the text behind them is read as if it stood alone.
    by_cases hfirst : p.IsClear
    · have hps : ¬ ∀ q ∈ ps, q.IsClear := fun hps => hclear (List.forall_mem_cons.mpr ⟨hfirst, hps⟩)
      obtain ⟨before, hbefore, hmisread⟩ := ih hps
      obtain ⟨qs, hqs, hlines, hne⟩ := isMisread_iff.mp hmisread
      have hended : p.IsEnded := hended.resolve_right fun hnil => hps (by simp [hnil])
      refine ⟨p.lines ++ before, (List.prefix_append_right_inj _).mpr hbefore,
        isMisread_iff.mpr ⟨p :: qs, .cons hp (.inl hended) hqs, ?_, ?_⟩⟩
      · rw [List.flatMap_cons, hlines, List.append_assoc]
      · rw [List.append_assoc, outline_append_of_isClear hp hfirst (.inl hended), filterMap_heading?_cons]
        exact fun heq => hne (List.append_cancel_left heq)
    · obtain ⟨before, hbefore, hmisread⟩ := exists_isMisread_of_not_isClear hprobe hp hfirst
      exact ⟨before, hbefore.trans (List.prefix_append _ _), hmisread⟩

end

/-- The lines of each text have one division into passages. If all are clear, the headings among them are listed;
    if not, the headings are misread as soon as there is one at some place. -/
theorem exists_division (ls : List Text) : ∃ ps, AreProper ps ∧ ps.flatMap lines = ls ∧
    (∀ qs, AreProper qs → qs.flatMap lines = ls → qs = ps) ∧
    ((∀ p ∈ ps, p.IsClear) → (Heading.ofLines ls).map (fun h => (h.level, h.text)) = ps.filterMap heading?) ∧
    ((¬ ∀ p ∈ ps, p.IsClear) → ∀ probe level text, IsHeading probe level text →
      ∃ before, before <+: ls ∧ IsMisread (before ++ [probe])) := by
  obtain ⟨ps, hps, rfl⟩ := exists_areProper ls
  refine ⟨ps, hps, rfl, fun qs hqs h => hqs.unique hps h, fun hclear => ?_, fun hclear probe level text hprobe =>
    exists_isMisread hprobe hps hclear⟩
  rw [map_found_ofLines, outline_of_isClear hps hclear]

theorem exists_division_of_tildes_in_code :
    (Heading.ofLines ["~~~~\n", "~~~\n", "# a\n", "~~~~~ \n", "# b\n"]).map (fun h => (h.level, h.text)) =
      [(1, "b".toList)] := by
  let ps := [code ⟨'~', 4⟩ "~~~~\n" ["~~~\n", "# a\n"] (some "~~~~~ \n".toList), heading "# b\n" 1 "b"]
  have hps : AreProper ps := .cons ⟨by decide, by decide, by decide⟩ (.inl rfl)
    (.cons (isHeading_iff.mpr (by decide)) (.inr rfl) .nil)
  obtain ⟨qs, -, -, hunique, hread, -⟩ := exists_division ["~~~~\n", "~~~\n", "# a\n", "~~~~~ \n", "# b\n"]
  obtain rfl := hunique ps hps rfl
  refine hread fun p hp => ?_
  simp only [ps, List.mem_cons, List.not_mem_nil, or_false] at hp
  rcases hp with rfl | rfl
  · show ∀ l ∈ _, Fence.StaysOpen _ l
    decide
  · trivial

/-- A fence inside of fenced code, and inline code that begins a line outside of it. -/
theorem isMisread_of_fence_with_text :
    IsMisread ["```\n", "```lua\n", "# a\n", "```\n"] ∧ IsMisread ["```x``` text\n", "# a\n"] := by
  constructor
  · refine ⟨[code ⟨'\x60', 3⟩ "```\n" ["```lua\n", "# a\n"] (some "```\n".toList)], ?_, rfl, by decide⟩
    exact .cons ⟨by decide, by decide, by decide⟩ (.inr rfl) .nil
  · refine ⟨[prose "```x``` text\n", heading "# a\n" 1 "a"], ?_, rfl, by decide⟩
    refine .cons ⟨fun f hf => ?_, ?_⟩ (.inl trivial) (.cons (isHeading_iff.mpr (by decide)) (.inr rfl) .nil)
    · obtain ⟨hfence, hinfo⟩ := Fence.opens_iff.mp hf
      obtain rfl : (⟨'\x60', 3⟩ : Fence) = f := by
        have hthree : fence? (withoutEnd "```x``` text\n") = some ⟨'\x60', 3⟩ := by decide
        exact Option.some.inj (hthree.symm.trans hfence)
      exact absurd (hinfo rfl) (by decide)
    · exact not_isHeading_iff.mpr (by decide)

end Passage
end PluginManual
