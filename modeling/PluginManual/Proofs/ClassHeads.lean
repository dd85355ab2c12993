import PluginManual.Proofs.Annotations
import PluginManual.Proofs.Merging

/-! How the head of a class is written: its name, behind a colon the names of its parents, and a description. The
    reader cuts the line at its first colon, wherever that stands, and takes the word behind it. So it reads the name
    and the first parent of all such lines but two kinds: those without parents whose description has a colon, and
    those with a comma right behind the first parent. -/

namespace PluginManual
open Text

/-! ### Names -/

/-- Names with dots between them. -/
def IsDotted (n : Text) : Prop := ∀ name ∈ splitOn '.' n, DocLine.isIdentifier name = true

instance (n : Text) : Decidable (IsDotted n) := inferInstanceAs (Decidable (∀ name ∈ _, _))

variable {n s : Text} {c : Char}

theorem IsDotted.ne_nil (h : IsDotted n) : n ≠ [] := by
  rintro rfl
  exact absurd (h [] List.mem_cons_self) (by decide)

/-- The characters of the names, and the dots. -/
theorem IsDotted.char (h : IsDotted n) (hc : c ∈ n) : c.isAlphanum = true ∨ c = '_' ∨ c = '.' := by
  rw [← join_splitOn '.' n] at hc
  rcases mem_of_mem_join hc with hc | ⟨name, hname, hc⟩
  · exact .inr (.inr (List.mem_singleton.mp hc))
  · exact (DocLine.char_of_isIdentifier (h name hname) c hc).imp_right .inl

theorem IsDotted.isWord (h : IsDotted n) : IsWord n := by
  refine ⟨h.ne_nil, fun c hc => ?_⟩
  rcases h.char hc with hc | rfl | rfl
  · exact not_isBlank_of_isAlphanum hc
  · decide
  · decide

/-- No other sign stands in the names. -/
theorem IsDotted.not_mem (h : IsDotted n) (hc : c.isAlphanum = false ∧ c ≠ '_' ∧ c ≠ '.') : c ∉ n := by
  intro hmem
  rcases h.char hmem with h | h | h
  · rw [hc.1] at h
    cases h
  · exact hc.2.1 h
  · exact hc.2.2 h

/-! ### Lines -/

/-- A name behind a sign, with the blanks on both sides of the sign. -/
structure Attached where
  before : Text
  behind : Text
  name : Text

/-- The parts of a line with the head of a class. -/
structure ClassLine where
  before : Text
  gap : Text
  /-- The blanks behind the word that marks an exact class, if it is marked. -/
  mark : Option Text
  name : Text
  parents : List Attached
  /-- What stands behind the names: a description with blanks before and behind it, or blanks only. -/
  rest : Text

namespace Attached

def toText (sign : Char) (p : Attached) : Text := p.before ++ sign :: (p.behind ++ p.name)

structure IsWritten (p : Attached) : Prop where
  before : ∀ c ∈ p.before, isSpaceOrTab c = true
  behind : ∀ c ∈ p.behind, isSpaceOrTab c = true
  name : IsDotted p.name

theorem isWritten_iff {p : Attached} : p.IsWritten ↔
    p.before.all isSpaceOrTab = true ∧ p.behind.all isSpaceOrTab = true ∧ IsDotted p.name := by
  rw [List.all_eq_true, List.all_eq_true]
  exact ⟨fun h => ⟨h.before, h.behind, h.name⟩, fun ⟨hbefore, hbehind, hname⟩ => ⟨hbefore, hbehind, hname⟩⟩

instance (p : Attached) : Decidable p.IsWritten := decidable_of_iff _ isWritten_iff.symm

theorem IsWritten.endsSolid {p : Attached} (h : p.IsWritten) (sign : Char) : EndsSolid (p.toText sign) :=
  ((h.name.isWord.endsSolid.append p.behind).append [sign]).append p.before

end Attached

namespace ClassLine

variable {l : ClassLine}

def marking : Option Text → Text
  | none => []
  | some w => "(exact)" ++ w

/-- The first parent stands behind a colon, the others behind commas. -/
def parentsText : List Attached → Text
  | [] => []
  | p :: ps => p.toText ':' ++ ps.flatMap (·.toText ',')

/-- What stands behind the blanks after the tag and behind the mark. -/
def head (l : ClassLine) : Text := l.name ++ (parentsText l.parents ++ l.rest)

/-- The line up to the end of the names. -/
def front (l : ClassLine) : Text :=
  '@' :: ("class" ++ (l.gap ++ (marking l.mark ++ (l.name ++ parentsText l.parents))))

def toText (l : ClassLine) : Text := l.before ++ (l.front ++ l.rest)

/-- The name of the first parent. -/
def parent? (l : ClassLine) : Option Text := l.parents.head?.map (·.name)

structure IsWritten (l : ClassLine) : Prop where
  before : ∀ c ∈ l.before, isSpaceOrTab c = true
  gap : DocLine.IsSpacing l.gap
  mark : ∀ w ∈ l.mark, ∀ c ∈ w, isSpaceOrTab c = true
  name : IsDotted l.name
  parents : ∀ p ∈ l.parents, p.IsWritten
  rest : ∀ c ∈ l.rest.head?, isBlank c = true
  description : ∀ c ∈ firstNonblank? l.rest, c ≠ ':' ∧ c ≠ ','

theorem isWritten_iff : l.IsWritten ↔ l.before.all isSpaceOrTab = true ∧ DocLine.IsSpacing l.gap ∧
    (l.mark.all (·.all isSpaceOrTab)) = true ∧ IsDotted l.name ∧ (∀ p ∈ l.parents, p.IsWritten) ∧
    l.rest.head?.all isBlank = true ∧ ((firstNonblank? l.rest).all fun c => c ≠ ':' && c ≠ ',') = true := by
  simp only [List.all_eq_true, Option.all_eq_true, Bool.and_eq_true, decide_eq_true_eq]
  exact ⟨fun h => ⟨h.before, h.gap, h.mark, h.name, h.parents, h.rest, h.description⟩,
    fun ⟨hbefore, hgap, hmark, hname, hparents, hrest, hdescription⟩ =>
      ⟨hbefore, hgap, hmark, hname, hparents, hrest, hdescription⟩⟩

instance (l : ClassLine) : Decidable l.IsWritten := decidable_of_iff _ isWritten_iff.symm

/-- Without parents there is no colon in the line. With several a blank separates the first from the comma behind it. -/
def IsClear (l : ClassLine) : Prop :=
  match l.parents with
  | [] => ':' ∉ l.rest
  | _ :: others => ∀ p ∈ others.head?, p.before ≠ []

instance (l : ClassLine) : Decidable l.IsClear := by
  unfold IsClear
  split <;> infer_instance

end ClassLine

/-! ### Reading -/

namespace DocLine

variable {core a b w more : Text} {p : Option Text}

theorem without_append (word s : Text) : without word (word ++ s) = s := by
  rw [without, List.isPrefixOf?_eq_some_iff_append_eq.mpr rfl]
  rfl

theorem without_of_not_prefix {word s : Text} (h : ¬ word <+: s) : without word s = s := by
  rw [without]
  cases hrest : word.isPrefixOf? s with
  | none => rfl
  | some rest => exact absurd ⟨rest, List.isPrefixOf?_eq_some_iff_append_eq.mp hrest⟩ h

/-- The mark of an exact class is passed over. -/
theorem classHead?_marking {m : Option Text} (hm : ∀ w ∈ m, ∀ c ∈ w, isSpaceOrTab c = true)
    (hcore : ¬ "(exact)".toList <+: core) : classHead? (ClassLine.marking m ++ core) = classHead? core := by
  cases m with
  | none => rfl
  | some w =>
    have htext : ClassLine.marking (some w) ++ core = "(exact)".toList ++ (w ++ core) := List.append_assoc ..
    have hmark := without_append "(exact)" (w ++ core)
    have hbare := without_of_not_prefix hcore
    have htrim := trim_blank_append (fun c hc => isBlank_of_isSpaceOrTab (hm w rfl c hc)) core
    simp only [htext, classHead?, hmark, hbare, htrim]

/-- Without a colon the name is the first word. -/
theorem classHead?_of_no_colon (hcore : ¬ "(exact)".toList <+: n ++ more) (htrim : Text.trim (n ++ more) = n ++ more)
    (hn : IsWord n) (hmore : ∀ c ∈ more.head?, isBlank c = true) (hcolon : ':' ∉ n ++ more) :
    classHead? (n ++ more) = some (n, none) := by
  have hempty : n.isEmpty = false := List.isEmpty_eq_false_iff.mpr hn.ne_nil
  have hsplit := splitWord_append (a := []) (by simp) hn hmore
  rw [List.nil_append] at hsplit
  simp only [classHead?, without_of_not_prefix hcore, htrim, splitOnce?_of_not_mem hcolon, hsplit, hempty]
  rfl

/-- With a colon the name is all that comes before the first one, and the parent is the word behind that. -/
theorem classHead?_of_colon (hcore : ¬ "(exact)".toList <+: a ++ ':' :: b)
    (htrim : Text.trim (a ++ ':' :: b) = a ++ ':' :: b) (ha : ':' ∉ a) (hname : Text.trim a ≠ []) :
    classHead? (a ++ ':' :: b) =
      some (Text.trim a, if b.splitWord.1.isEmpty then none else some b.splitWord.1) := by
  have hempty : (Text.trim a).isEmpty = false := List.isEmpty_eq_false_iff.mpr hname
  simp only [classHead?, without_of_not_prefix hcore, htrim, splitOnce?_append ha, hempty]
  rfl

end DocLine

namespace ClassLine

variable {l : ClassLine} {p : Attached} {ps : List Attached} {a more : Text}

/-! ### The parts of a line -/

theorem endsSolid_flatMap (ha : EndsSolid a) (hps : ∀ p ∈ ps, p.IsWritten) :
    EndsSolid (a ++ ps.flatMap (·.toText ',')) := by
  induction ps generalizing a with
  | nil => rwa [List.flatMap_nil, List.append_nil]
  | cons p ps ih =>
    obtain ⟨hp, hps⟩ := List.forall_mem_cons.mp hps
    rw [List.flatMap_cons, ← List.append_assoc]
    exact ih ((hp.endsSolid ',').append a) hps

theorem endsSolid_parentsText (ha : EndsSolid a) (hps : ∀ p ∈ ps, p.IsWritten) : EndsSolid (a ++ parentsText ps) := by
  cases ps with
  | nil => rwa [parentsText, List.append_nil]
  | cons p ps =>
    obtain ⟨hp, hps⟩ := List.forall_mem_cons.mp hps
    rw [parentsText, ← List.append_assoc]
    exact endsSolid_flatMap ((hp.endsSolid ':').append a) hps

theorem not_prefix_of_isDotted (h : IsDotted n) (s : Text) : ¬ "(exact)".toList <+: n ++ s := by
  rintro ⟨rest, hrest⟩
  obtain ⟨c, n', rfl⟩ := List.exists_cons_of_ne_nil h.ne_nil
  have hc : '(' = c := (List.cons.inj hrest).1
  exact h.not_mem (c := '(') (by decide) (hc ▸ List.mem_cons_self)

/-- The line without the blanks at its end. -/
def trimmed (l : ClassLine) : ClassLine := { l with rest := l.rest.trimEnd }

theorem IsWritten.trimmed (h : l.IsWritten) : l.trimmed.IsWritten := by
  obtain ⟨w, hrest, -, -⟩ := dropEndWhile_eq_iff.mp (rfl : l.rest.trimEnd = _)
  refine ⟨h.before, h.gap, h.mark, h.name, h.parents, fun c hc => h.rest c ?_, ?_⟩
  · rw [hrest]
    exact List.mem_head?_append_of_mem_head? hc
  · rw [ClassLine.trimmed, firstNonblank?_trimEnd]
    exact h.description

theorem isClear_trimmed_iff : l.trimmed.IsClear ↔ l.IsClear := by
  obtain ⟨w, hrest, hw, -⟩ := dropEndWhile_eq_iff.mp (rfl : l.rest.trimEnd = _)
  have hcolon : ':' ∈ l.rest.trimEnd ↔ ':' ∈ l.rest := by
    have hnot : ':' ∉ w := fun hmem => absurd (hw _ hmem) (by decide)
    conv_rhs => rw [hrest]
    simp [hnot]
  cases hps : l.parents with
  | nil => simp only [IsClear, trimmed, hps, hcolon]
  | cons p ps => simp only [IsClear, trimmed, hps]

theorem IsWritten.trim_head (h : l.IsWritten) : Text.trim l.trimmed.head = l.trimmed.head := by
  have hend := endsSolid_parentsText h.name.isWord.endsSolid h.parents
  refine trim_of_avoids (h.name.isWord.avoids _) ?_
  rw [head, ← List.append_assoc]
  exact hend.avoidsLast.append (avoidsLast_dropEndWhile _ l.rest)

theorem IsWritten.avoids (h : l.IsWritten) : Avoids isBlank (marking l.mark ++ l.head) := by
  cases hm : l.mark with
  | none => exact h.name.isWord.avoids _
  | some w => exact avoids_cons.mpr (by decide)

/-- The blanks around the line are dropped. -/
theorem IsWritten.trim_toText (h : l.IsWritten) :
    Text.trim l.toText = '@' :: ("class" ++ (l.gap ++ (marking l.mark ++ l.trimmed.head))) := by
  have hnames := endsSolid_parentsText h.name.isWord.endsSolid h.parents
  have hend : EndsSolid l.front := (((hnames.append (marking l.mark)).append l.gap).append "class").append ['@']
  have hfront : l.front ++ l.trimmed.rest = '@' :: ("class" ++ (l.gap ++ (marking l.mark ++ l.trimmed.head))) := by
    simp only [front, head, List.append_assoc, List.cons_append]
    rfl
  rw [toText, trim_blank_append fun c hc => isBlank_of_isSpaceOrTab (h.before c hc),
    hend.trim_append (avoids_cons.mpr (by decide))]
  exact hfront

theorem ofText_toText (h : l.IsWritten) : DocLine.ofText l.toText =
    ((DocLine.classHead? l.trimmed.head).map fun (n, p) => DocLine.classHead n p).getD .other := by
  have hword : IsWord "class" := by decide
  have hhead : DocLine.classHead? (marking l.mark ++ l.trimmed.head) = DocLine.classHead? l.trimmed.head :=
    DocLine.classHead?_marking h.mark (not_prefix_of_isDotted h.name _)
  have hsplit : Text.splitWord ("class" ++ (l.gap ++ (marking l.mark ++ l.trimmed.head))) =
      ("class".toList, marking l.mark ++ l.trimmed.head) := h.gap.splitWord hword h.trimmed.avoids
  rw [DocLine.ofText, h.trim_toText]
  show DocLine.ofTag _ = _
  rw [DocLine.ofTag, hsplit]
  simp only [hhead]
  rfl

/-- A colon in the description is taken for that before the parents, and what comes before it for the name. -/
theorem classHead?_ne_of_colon {n rest : Text} {p : Option Text} (hn : IsDotted n) (htrim : Text.trim (n ++ rest) = n ++ rest)
    (hrest : ∀ c ∈ firstNonblank? rest, c ≠ ':') (hcolon : ':' ∈ rest) : DocLine.classHead? (n ++ rest) ≠ some (n, p) := by
  obtain ⟨a, b, rfl, ha⟩ := List.eq_append_cons_of_mem hcolon
  have hname : Text.trim (n ++ a) = n ++ Text.trimEnd a := hn.isWord.endsSolid.trim_append (hn.isWord.avoids a)
  have hmore : Text.trimEnd a ≠ [] := by
    intro hnil
    obtain ⟨w, hw, hblank, -⟩ := dropEndWhile_eq_iff.mp hnil
    obtain rfl : a = w := hw
    refine hrest ':' ?_ rfl
    rw [firstNonblank?_blank_append hblank]
    rfl
  have hfirst : ':' ∉ n ++ a := by simp [ha, hn.not_mem (c := ':') (by decide)]
  have hmark := not_prefix_of_isDotted hn (a ++ ':' :: b)
  rw [← List.append_assoc] at htrim hmark ⊢
  rw [DocLine.classHead?_of_colon hmark htrim hfirst (by simp [hname, hn.ne_nil]), hname]
  intro h
  exact hmore (List.append_right_eq_self.mp (Prod.mk.inj (Option.some.inj h)).1)

/-- Of the parents the word behind the colon is read, with all that stands right behind it. -/
theorem classHead?_of_parent {n more : Text} (hn : IsDotted n) (hp : p.IsWritten)
    (htrim : Text.trim (n ++ (p.toText ':' ++ more)) = n ++ (p.toText ':' ++ more)) :
    DocLine.classHead? (n ++ (p.toText ':' ++ more)) = some (n, some (p.name ++ more.takeWhile (!isBlank ·))) := by
  have hbefore : ∀ c ∈ p.before, isBlank c = true := fun c hc => isBlank_of_isSpaceOrTab (hp.before c hc)
  have hbehind : ∀ c ∈ p.behind, isBlank c = true := fun c hc => isBlank_of_isSpaceOrTab (hp.behind c hc)
  have hname : Text.trim (n ++ p.before) = n := (trim_append_blank hbefore n).trans hn.isWord.trim
  have hword : (Text.splitWord (p.behind ++ (p.name ++ more))).1 = p.name ++ more.takeWhile (!isBlank ·) := by
    have hstart : Text.trimStart (p.behind ++ (p.name ++ more)) = p.name ++ more :=
      trimStart_eq_iff.mpr ⟨_, rfl, hbehind, hp.name.isWord.avoids more⟩
    rw [Text.splitWord, hstart]
    exact List.takeWhile_append_of_pos fun c hc => by simp [hp.name.isWord.solid c hc]
  have hfirst : ':' ∉ n ++ p.before := by
    have hsign : ':' ∉ p.before := fun hmem => absurd (hp.before _ hmem) (by decide)
    simp [hsign, hn.not_mem (c := ':') (by decide)]
  have hmark := not_prefix_of_isDotted hn (p.toText ':' ++ more)
  have htext : n ++ (p.toText ':' ++ more) = (n ++ p.before) ++ ':' :: (p.behind ++ (p.name ++ more)) := by
    simp only [Attached.toText, List.append_assoc, List.cons_append]
  rw [htext] at htrim hmark ⊢
  rw [DocLine.classHead?_of_colon hmark htrim hfirst (by simp [hname, hn.ne_nil]), hname, hword,
    if_neg (by simp [hp.name.ne_nil])]

/-- Nothing stands right behind the first parent unless a comma does. -/
theorem takeWhile_eq_nil_iff {rest : Text} (hps : ∀ p ∈ ps, p.IsWritten) (hrest : ∀ c ∈ rest.head?, isBlank c = true) :
    (ps.flatMap (·.toText ',') ++ rest).takeWhile (!isBlank ·) = [] ↔ ∀ p ∈ ps.head?, p.before ≠ [] := by
  cases ps with
  | nil =>
    refine iff_of_true ?_ (by simp)
    cases rest with
    | nil => rfl
    | cons c rest => exact List.takeWhile_cons_of_neg (by simp [hrest c rfl])
  | cons p ps =>
    rw [List.flatMap_cons, Attached.toText, List.append_assoc, List.append_assoc]
    cases hbefore : p.before with
    | nil =>
      have hcomma : isBlank ',' = false := by decide
      simp [hbefore, hcomma]
    | cons c w =>
      have hblank : isBlank c = true :=
        isBlank_of_isSpaceOrTab ((hps p List.mem_cons_self).before c (hbefore ▸ List.mem_cons_self))
      simp [hbefore, hblank]

/-- The name and the first parent are read off the line exactly if it is clear. -/
theorem classHead?_head_iff (h : l.IsWritten) (htrim : Text.trim l.head = l.head) :
    DocLine.classHead? l.head = some (l.name, l.parent?) ↔ l.IsClear := by
  rw [head] at htrim ⊢
  rw [parent?, IsClear]
  cases hps : l.parents with
  | nil =>
    rw [hps] at htrim
    rw [parentsText, List.nil_append] at htrim ⊢
    constructor
    · intro hread hcolon
      exact classHead?_ne_of_colon h.name htrim (fun c hc => (h.description c hc).1) hcolon hread
    · intro hcolon
      have hname : ':' ∉ l.name := h.name.not_mem (by decide)
      exact DocLine.classHead?_of_no_colon (not_prefix_of_isDotted h.name _) htrim h.name.isWord h.rest
        (by simp [hname, hcolon])
  | cons p ps =>
    rw [hps] at htrim
    rw [parentsText, List.append_assoc] at htrim ⊢
    rw [classHead?_of_parent h.name (h.parents p (hps ▸ List.mem_cons_self)) htrim]
    show _ ↔ ∀ q ∈ ps.head?, q.before ≠ []
    rw [← takeWhile_eq_nil_iff (fun q hq => h.parents q (hps ▸ List.mem_cons_of_mem p hq)) h.rest]
    simp

end ClassLine

/-! ### Finding the class -/

namespace Catalog

variable {c : Catalog} {k p : ClassDoc}

theorem single?_of_isDotted (h : IsDotted n) (hnil : n ≠ "nil".toList) : TypeExpr.single? n = some n := by
  have hquestion : dropEndWhile (· = '?') n = n := by
    have hmem : '?' ∉ n := h.not_mem (by decide)
    refine dropEndWhile_of_avoidsLast (avoidsLast_of_forall fun c hc => ?_)
    simpa using ne_of_mem_of_not_mem hc hmem
  have hbar : splitOn '|' n = [n] := splitOn_of_not_mem (h.not_mem (by decide))
  have hfilter : [n].filter (· ≠ "nil".toList) = [n] := List.filter_cons_of_pos (decide_eq_true hnil)
  simp only [TypeExpr.single?, h.isWord.trim, hquestion, hbar, List.map_singleton, hfilter]

theorem class?_addClass : (c.addClass k).class? n = if k.name = n then some k else c.class? n := Dictionary.get?_insert

theorem suffix_ancestry (m : Nat) (chain : List ClassDoc) : chain <:+ c.ancestry m chain := by
  induction m generalizing chain with
  | zero => exact List.suffix_refl _
  | succ m ih =>
    rw [ancestry]
    split
    · exact List.suffix_refl _
    split
    · exact List.suffix_refl _
    split
    · exact List.suffix_refl _
    · exact (List.suffix_cons _ chain).trans (ih _)

/-- The class is found under its name, and the fields of its parent come before its own. -/
structure Holds (c : Catalog) (k : ClassDoc) : Prop where
  found : c.classFor? k.name = some k
  inherited : ∀ name ∈ k.parent, ∀ p ∈ c.class? name, p.name ≠ k.name → p.fields ++ k.fields <:+ c.fieldsOf k

theorem holds_addClass (c : Catalog) (hname : IsDotted k.name) (hnil : k.name ≠ "nil".toList) : (c.addClass k).Holds k := by
  refine ⟨?_, fun name hparent p hp hne => ?_⟩
  · rw [classFor?, follow, single?_of_isDotted hname hnil]
    simp [class?_addClass]
  · have hsize : (c.addClass k).classes.size = _ + 1 := c.classes.size_insert k.name k
    have hstep : ∀ m, (c.addClass k).ancestry (m + 1) [k] = (c.addClass k).ancestry m [p, k] := by
      intro m
      have hhead : ([k].head?.bind (·.parent)) = some name := hparent
      have hnew : [k].any (·.name = p.name) = false := by simp [Ne.symm hne]
      rw [ancestry, hhead]
      simp only [Option.mem_def.mp hp, hnew, Bool.false_eq_true, if_false]
    rw [fieldsOf, hsize, hstep]
    obtain ⟨before, hbefore⟩ := suffix_ancestry (c := c.addClass k) _ [p, k]
    rw [← hbefore, List.flatMap_append]
    exact ⟨before.flatMap (·.fields), by simp⟩

end Catalog

theorem classes_go_field (k : ClassDoc) (fields : List FieldDoc) :
    DocBlock.classes.go (some k) (fields.map .field) = [{ k with fields := k.fields ++ fields }] := by
  induction fields generalizing k with
  | nil => simp [DocBlock.classes.go]
  | cons f fields ih =>
    rw [List.map_cons, DocBlock.classes.go, Option.map_some, ih]
    simp

namespace ClassLine

variable {l : ClassLine}

/-- Exactly of the clear lines the name and the first parent are read, and the class is then found under its name. -/
theorem ofText_eq_classHead_iff (h : l.IsWritten) :
    (DocLine.ofText l.toText = .classHead l.name l.parent? ↔ l.IsClear) ∧
      (l.IsClear → l.name ≠ "nil".toList → ∀ (c : Catalog) (fields : List FieldDoc),
        DocBlock.classes (DocLine.ofText l.toText :: fields.map .field) = [⟨l.name, l.parent?, fields⟩] ∧
          (c.addClass ⟨l.name, l.parent?, fields⟩).Holds ⟨l.name, l.parent?, fields⟩) := by
  have hread : DocLine.ofText l.toText = .classHead l.name l.parent? ↔ l.IsClear := by
    rw [← isClear_trimmed_iff, ← classHead?_head_iff h.trimmed h.trim_head, ofText_toText h]
    cases DocLine.classHead? l.trimmed.head with
    | none => simp
    | some k => exact ⟨fun hk => congrArg some (Prod.ext (DocLine.classHead.inj hk).1 (DocLine.classHead.inj hk).2),
        fun hk => by rw [hk]; rfl⟩
  refine ⟨hread, fun hclear hnil c fields => ⟨?_, c.holds_addClass h.name hnil⟩⟩
  rw [hread.mpr hclear]
  exact classes_go_field ⟨l.name, l.parent?, []⟩ fields

/-- Colons of the description and commas apart from the first parent do no harm. -/
theorem ofText_exact_opts :
    let l : ClassLine := ⟨" \t", " ", some " ", "quicker.Opts", [⟨" ", " ", "quicker.Base"⟩, ⟨" ", "", "quicker.Extra"⟩],
      "  Options: see |docs|. "⟩
    l.toText = " \t@class (exact) quicker.Opts : quicker.Base ,quicker.Extra  Options: see |docs|. " ∧
      l.IsWritten ∧ DocLine.ofText l.toText = .classHead "quicker.Opts" (some "quicker.Base") := by
  intro l
  have h : l.IsWritten := by decide
  exact ⟨by decide, h, (ofText_eq_classHead_iff h).1.mpr (by decide)⟩

/-- Without parents a colon in the description is taken for that before a parent, and a comma right behind the first
    parent for a part of its name. Neither the class nor its parent is found then. -/
theorem ofText_ne_of_colon_or_comma :
    let l : ClassLine := ⟨"", " ", none, "Foo", [], " Options: all of them"⟩
    let l' : ClassLine := ⟨"", " ", none, "C", [⟨"", " ", "A"⟩, ⟨"", " ", "B"⟩], ""⟩
    (l.toText = "@class Foo Options: all of them" ∧ l.IsWritten ∧
      DocLine.ofText l.toText = .classHead "Foo Options" (some "all") ∧
      ((DocBlock.classes [DocLine.ofText l.toText]).foldl Catalog.addClass {}).classFor? "Foo" = none) ∧
    (l'.toText = "@class C: A, B" ∧ l'.IsWritten ∧ DocLine.ofText l'.toText = .classHead "C" (some "A,")) := by
  intro l l'
  exact ⟨⟨by decide, by decide, by decide, by decide⟩, ⟨by decide, by decide, by decide⟩⟩

end ClassLine
end PluginManual
