import PluginManual.Docs.Line
import PluginManual.Proofs.TypeExtent

/-! How annotations are written: parameters, fields, returned values and other names for types. A line that is written
    like that is read as what it says, whatever spaces and tabs stand between its parts: no part takes characters from
    another. -/

namespace PluginManual
open Text TypeExpr

namespace TypeExpr

/-- A type is what is split off before a word. -/
theorem isType_iff {t : Text} : IsType t ↔ split (t ++ [' ', 'x']) = (t, ['x']) := by
  constructor
  · intro h
    have hgap : IsGap [' '] := ⟨⟨' ', rfl, by decide⟩, List.all_eq_true.mp (by decide)⟩
    exact split_of_isDivided (.mk (a := []) (d := ['x']) (by simp) h hgap (by simp [Follows]; decide))
  · intro h
    rcases split_eq_iff.mp h with hdivided | ⟨-, -, hnil⟩
    · generalize t ++ [' ', 'x'] = s at hdivided
      cases hdivided with
      | mk _ ht => exact ht
    · cases hnil

instance (t : Text) : Decidable (IsType t) := decidable_of_iff _ isType_iff.symm

end TypeExpr

namespace DocLine

variable {n t d w w' a b v i more body s : Text} {l : DocLine} {r : ReturnDoc}

/-! ### Parts of an annotation -/

/-- Spaces and tabs between two parts. -/
structure IsSpacing (w : Text) : Prop where
  ne_nil : w ≠ []
  blank : ∀ c ∈ w, isSpaceOrTab c = true

/-- A type that does not end with a blank. -/
structure IsWrittenType (t : Text) : Prop extends IsType t where
  last : EndsSolid t

/-- A description has no blanks around it, and begins neither with a bar nor with a number sign. -/
structure IsDescription (d : Text) : Prop where
  begins : ∃ c ∈ d.head?, isBlank c = false ∧ c ≠ '|' ∧ c ≠ '#'
  last : EndsSolid d

/-- What stands behind the other parts: a description, or nothing if that is left out. -/
inductive IsRemark : Text → Text → Prop
  | none : IsRemark [] []
  | some {w d : Text} : IsSpacing w → IsDescription d → IsRemark d (w ++ d)

/-- Behind a type a description is not taken for more of it. -/
theorem IsDescription.follows (h : IsDescription d) : Follows d := by
  obtain ⟨c, hc, hblank, hbar, -⟩ := h.begins
  intro x hx
  obtain rfl := Option.mem_unique hc hx
  exact ⟨hblank, hbar⟩

theorem IsDescription.avoids (h : IsDescription d) : Avoids PluginManual.isBlank d := fun c hc => (h.follows c hc).1

theorem isSpacing_iff : IsSpacing w ↔ w ≠ [] ∧ w.all isSpaceOrTab = true := by
  rw [List.all_eq_true]
  exact ⟨fun h => ⟨h.ne_nil, h.blank⟩, fun h => ⟨h.1, h.2⟩⟩

instance (w : Text) : Decidable (IsSpacing w) := decidable_of_iff _ isSpacing_iff.symm

theorem IsSpacing.isBlank (h : IsSpacing w) : ∀ c ∈ w, isBlank c = true := fun c hc =>
  isBlank_of_isSpaceOrTab (h.blank c hc)

theorem IsSpacing.head (h : IsSpacing w) (s : Text) : ∀ c ∈ (w ++ s).head?, PluginManual.isBlank c = true := by
  intro c hc
  rw [List.head?_append_of_ne_nil _ h.ne_nil] at hc
  exact h.isBlank c (List.mem_of_mem_head? hc)

theorem IsSpacing.isGap (h : IsSpacing w) : IsGap w := by
  obtain ⟨c, w, rfl⟩ := List.exists_cons_of_ne_nil h.ne_nil
  exact ⟨⟨c, rfl, isAsciiBlank_of_isSpaceOrTab (h.blank c List.mem_cons_self)⟩, h.isBlank⟩

/-- A word is split off before a text that does not begin with a blank. -/
theorem IsSpacing.splitWord (hw : IsSpacing w) (hn : IsWord n) (hs : Avoids PluginManual.isBlank s) :
    (n ++ (w ++ s)).splitWord = (n, s) := by
  have hcut := splitWord_append (a := []) (by simp) hn (hw.head s)
  rwa [trimStart_eq_iff.mpr ⟨w, rfl, hw.isBlank, hs⟩, List.nil_append] at hcut

theorem IsRemark.trimStart (h : IsRemark d more) : more.trimStart = d := by
  cases h with
  | none => rfl
  | some hw hd => exact trimStart_eq_iff.mpr ⟨_, rfl, hw.isBlank, hd.avoids⟩

theorem IsRemark.head (h : IsRemark d more) : ∀ c ∈ more.head?, isBlank c = true := by
  cases h with
  | none => simp
  | some hw => exact hw.head _

theorem IsRemark.last (h : IsRemark d more) (ha : EndsSolid a) : EndsSolid (a ++ more) := by
  cases h with
  | none => rwa [List.append_nil]
  | some hw hd => exact (hd.last.append _).append a

theorem IsRemark.trim_description (h : IsRemark d more) : Text.trim d = d := by
  cases h with
  | none => rfl
  | some hw hd => exact trim_of_avoids hd.avoids hd.last.avoidsLast

theorem IsRemark.trim (h : IsRemark d more) : Text.trim more = d := by
  have hdescription := h.trim_description
  cases h with
  | none => rfl
  | some hw hd => rw [trim_blank_append hw.isBlank, hdescription]

/-- No number sign is taken from the beginning of a remark. -/
theorem IsRemark.dropWhile (h : IsRemark d more) : d.dropWhile (· = '#') = d := by
  cases h with
  | none => rfl
  | some hw hd =>
    obtain ⟨c, hc, -, -, hsign⟩ := hd.begins
    obtain ⟨d, rfl⟩ := List.head?_eq_some_iff.mp hc
    exact List.dropWhile_cons_of_neg (by simpa using hsign)

/-- The type is split off before what tells a number sign or a name. -/
theorem IsWrittenType.split_append (ht : IsWrittenType t) (hw : IsSpacing w) (hd : Follows d) :
    TypeExpr.split (t ++ (w ++ d)) = (t, d) := split_of_isDivided (.mk (a := []) (by simp) ht.toIsType hw.isGap hd)

/-- The type is split off before the remark. -/
theorem IsWrittenType.split (ht : IsWrittenType t) (h : IsRemark d more) : TypeExpr.split (t ++ more) = (t, d) := by
  cases h with
  | none =>
    rw [List.append_nil]
    exact split_of_isType (a := []) (by simp) ht.toIsType
  | some hw hd => exact ht.split_append hw hd.follows

theorem IsWrittenType.avoidsBlank (ht : IsWrittenType t) : Avoids isBlank t := List.append_nil t ▸ ht.avoids []

theorem IsWrittenType.ne_nil (ht : IsWrittenType t) : t ≠ [] := by
  rintro rfl
  obtain ⟨c, hc, -⟩ := ht.begins
  cases hc

/-! ### Declarations -/

/-- A word that does not end with a question mark. -/
structure IsName (n : Text) : Prop extends IsWord n where
  last : n.getLast? ≠ some '?'

/-- The type with `nil` as its first alternative. -/
def withNil (t : Text) : Text := if "nil|".toList <+: t then t else "nil|".toList ++ t

/-- A name, its type and a remark. Behind the name a question mark may stand, and the type then admits `nil`. -/
inductive IsDeclared : Text → Text → Text → Text → Prop
  | plain {n w t d more : Text} : IsName n → IsSpacing w → IsWrittenType t → IsRemark d more →
      IsDeclared n t d (n ++ (w ++ (t ++ more)))
  | nullable {n w t d more : Text} : IsName n → IsSpacing w → IsWrittenType t → IsRemark d more →
      IsDeclared n (withNil t) d ((n ++ ['?']) ++ (w ++ (t ++ more)))

theorem optional_of_getLast? (h : n.getLast? ≠ some '?') : optional n t = (n, t) := by
  rw [optional]
  split
  · next hback => exact absurd (by rw [← List.head?_reverse, hback]; rfl) h
  · rfl

theorem optional_question : optional (n ++ ['?']) t = (n, withNil t) := by
  rw [optional, List.reverse_concat]
  simp only [List.reverse_reverse, withNil, List.isPrefixOf_iff_prefix]

theorem isWord_question (h : IsWord n) : IsWord (n ++ ['?']) := by
  refine ⟨by simp, fun c hc => ?_⟩
  rcases List.mem_append.mp hc with hc | hc
  · exact h.solid c hc
  · obtain rfl := List.mem_singleton.mp hc
    decide

/-- The reader takes the parts of a declaration apart, and the question mark from the name. -/
theorem IsDeclared.read (h : IsDeclared n t d body) : ∃ word rest type, body.splitWord = (word, rest) ∧
    IsWord word ∧ (word = n ∨ word = n ++ ['?']) ∧ TypeExpr.split rest = (type, d) ∧ optional word type = (n, t) := by
  cases h with
  | plain hn hw ht hmore =>
    have hword := hn.toIsWord
    exact ⟨_, _, _, hw.splitWord hword (ht.avoids _), hword, .inl rfl, ht.split hmore, optional_of_getLast? hn.last⟩
  | nullable hn hw ht hmore =>
    have hword := isWord_question hn.toIsWord
    exact ⟨_, _, _, hw.splitWord hword (ht.avoids _), hword, .inr rfl, ht.split hmore, optional_question⟩

theorem IsDeclared.avoids (h : IsDeclared n t d body) : Avoids isBlank body := by
  cases h with
  | plain hn => exact hn.toIsWord.avoids _
  | nullable hn => exact (isWord_question hn.toIsWord).avoids _

theorem IsDeclared.last (h : IsDeclared n t d body) : EndsSolid body := by
  cases h with
  | plain hn hw ht hmore => exact ((hmore.last ht.last).append _).append _
  | nullable hn hw ht hmore => exact ((hmore.last ht.last).append _).append _

theorem param?_of_isDeclared (h : IsDeclared n t d body) : param? body = some ⟨n, t, d⟩ := by
  obtain ⟨word, rest, type, hword, hne, -, hsplit, hoptional⟩ := h.read
  have hempty : word.isEmpty = false := List.isEmpty_eq_false_iff.mpr hne.ne_nil
  simp [param?, hword, hempty, hsplit, hoptional]

/-! ### Fields -/

/-- Words that say who can see a field. -/
def visibilities : List Text := ["private", "protected", "public", "package"]

/-- A field is read from behind the word that says who can see it, or from the beginning if there is none. -/
theorem IsDeclared.field? (h : IsDeclared n t d body) (hkey : n.head? ≠ some '[') {first rest : Text}
    (hfirst : first ≠ "private".toList ∧ first ≠ "protected".toList) (hs : s.splitWord = (first, rest))
    (hbody : (if first = "public".toList ∨ first = "package".toList then rest.splitWord else (first, rest)) = body.splitWord) :
    DocLine.field? s = some ⟨n, t, d⟩ := by
  obtain ⟨word, more, type, hword, hne, hname, hsplit, hoptional⟩ := h.read
  have hempty : word.isEmpty = false := List.isEmpty_eq_false_iff.mpr hne.ne_nil
  have hkey : word.head? ≠ some '[' := by
    rcases hname with rfl | rfl
    · exact hkey
    · cases n with
      | nil => simp
      | cons c n => exact hkey
  rw [hword] at hbody
  have hfound : (word.isEmpty || word.head? = some '[') = false := by simp [hempty, hkey]
  simp only [DocLine.field?, hs]
  rw [if_neg (not_or.mpr hfirst), hbody]
  simp only [hfound, hsplit, hoptional]
  rfl

theorem field?_of_isDeclared (h : IsDeclared n t d body) (hn : n ∉ visibilities) (hkey : n.head? ≠ some '[') :
    field? body = some ⟨n, t, d⟩ := by
  obtain ⟨word, rest, -, hword, -, hname, -⟩ := h.read
  have hvisible : word ∉ visibilities := by
    rcases hname with rfl | rfl
    · exact hn
    · have hlast : ∀ v ∈ visibilities, v.getLast? ≠ some '?' := by decide
      exact fun hmem => hlast _ hmem (List.getLast?_concat ..)
  simp only [visibilities, List.mem_cons, List.not_mem_nil, or_false, not_or] at hvisible
  obtain ⟨hprivate, hprotected, hpublic, hpackage⟩ := hvisible
  refine h.field? hkey ⟨hprivate, hprotected⟩ hword ?_
  rw [if_neg (not_or.mpr ⟨hpublic, hpackage⟩), hword]

theorem isWord_of_visible (hv : v = "public".toList ∨ v = "package".toList) : IsWord v := by
  rcases hv with rfl | rfl <;> decide

theorem field?_of_visibility (h : IsDeclared n t d body) (hkey : n.head? ≠ some '[')
    (hv : v = "public".toList ∨ v = "package".toList) (hw : IsSpacing w) : field? (v ++ (w ++ body)) = some ⟨n, t, d⟩ := by
  have hfirst : v ≠ "private".toList ∧ v ≠ "protected".toList := by rcases hv with rfl | rfl <;> decide
  refine h.field? hkey hfirst (hw.splitWord (isWord_of_visible hv) h.avoids) ?_
  rw [if_pos hv]

/-! ### Returned values and other names -/

/-- The type of a returned value, and behind it a number sign and a remark, or a name and a remark. -/
inductive IsReturned : ReturnDoc → Text → Prop
  | bare {t : Text} : IsWrittenType t → IsReturned ⟨t, none, []⟩ t
  | remarked {t w d more : Text} : IsWrittenType t → IsSpacing w → IsRemark d more →
      IsReturned ⟨t, none, d⟩ (t ++ (w ++ '#' :: more))
  | named {t w i d more : Text} : IsWrittenType t → IsSpacing w → isIdentifier i = true → IsRemark d more →
      IsReturned ⟨t, some i, d⟩ (t ++ (w ++ (i ++ more)))

theorem char_of_isIdentifier (h : isIdentifier i = true) : ∀ c ∈ i, c.isAlphanum = true ∨ c = '_' := by
  cases i with
  | nil => cases h
  | cons c s =>
    simp only [isIdentifier, Bool.and_eq_true, Bool.or_eq_true, decide_eq_true_eq, List.all_eq_true] at h
    exact List.forall_mem_cons.mpr ⟨h.1.imp_left fun hc => Bool.or_eq_true_iff.mpr (.inl hc), h.2⟩

theorem isWord_of_isIdentifier (h : isIdentifier i = true) : IsWord i := by
  refine ⟨?_, fun c hc => ?_⟩
  · rintro rfl
    cases h
  · rcases char_of_isIdentifier h c hc with hc | rfl
    · exact not_isBlank_of_isAlphanum hc
    · decide

/-- No identifier begins with a sign that goes on with a type or begins a remark. -/
theorem head_of_isIdentifier (h : isIdentifier i = true) :
    ∃ c s, i = c :: s ∧ isBlank c = false ∧ c ≠ '|' ∧ c ≠ '#' := by
  obtain ⟨c, s, rfl⟩ := List.exists_cons_of_ne_nil (isWord_of_isIdentifier h).ne_nil
  refine ⟨c, s, rfl, (isWord_of_isIdentifier h).solid c List.mem_cons_self, ?_, ?_⟩
  all_goals
    rintro rfl
    simp [isIdentifier] at h

theorem IsReturned.avoids (h : IsReturned r body) : Avoids isBlank body := by
  cases h with
  | bare ht => exact ht.avoidsBlank
  | remarked ht => exact ht.avoids _
  | named ht => exact ht.avoids _

theorem IsReturned.last (h : IsReturned r body) : EndsSolid body := by
  cases h with
  | bare ht => exact ht.last
  | @remarked t w d more ht hw hmore =>
    have hsign : EndsSolid ['#'] := ⟨'#', rfl, by decide⟩
    exact ((hmore.last hsign).append w).append t
  | named ht hw hi hmore => exact ((hmore.last (isWord_of_isIdentifier hi).endsSolid).append _).append _

theorem returns?_of_isReturned (h : IsReturned r body) : returns? body = some r := by
  have hnonempty : ∀ {t : Text}, IsWrittenType t → t.isEmpty = false := fun ht =>
    List.isEmpty_eq_false_iff.mpr ht.ne_nil
  cases h with
  | @bare t ht =>
    have hsplit := ht.split .none
    rw [List.append_nil] at hsplit
    simp only [returns?, hsplit, hnonempty ht]
    rfl
  | @remarked t w d more ht hw hmore =>
    have hsplit := ht.split_append hw (d := '#' :: more) (by simp [Follows]; decide)
    simp only [returns?, hsplit, hnonempty ht, hmore.trim]
    rfl
  | @named t w i d more ht hw hi hmore =>
    obtain ⟨c, s, hcons, hblank, hbar, hsign⟩ := head_of_isIdentifier hi
    have hsplit := ht.split_append hw (d := i ++ more) fun x hx => by
      obtain rfl : c = x := by simpa [hcons] using hx
      exact ⟨hblank, hbar⟩
    have hcut := splitWord_append (a := []) (by simp) (isWord_of_isIdentifier hi) hmore.head
    rw [List.nil_append, hmore.trimStart] at hcut
    simp only [returns?, hsplit, hnonempty ht, if_neg Bool.false_ne_true]
    split
    · next h =>
      rw [hcons] at h
      exact absurd (List.cons.inj h).1 hsign
    · simp only [hcut, hi, hmore.dropWhile, hmore.trim_description]
      rfl

theorem alias?_of_isWord (hn : IsWord n) (hw : IsSpacing w) (ht : IsWrittenType t) :
    alias? (n ++ (w ++ t)) = some ⟨n, t⟩ := by
  have hempty : n.isEmpty = false := List.isEmpty_eq_false_iff.mpr hn.ne_nil
  simp [alias?, hw.splitWord hn ht.avoidsBlank, hempty]

/-! ### Lines -/

/-- The text of an annotation behind its sign. -/
inductive IsAnnotation : DocLine → Text → Prop
  | param {n t d w body : Text} : IsSpacing w → IsDeclared n t d body →
      IsAnnotation (.param ⟨n, t, d⟩) ("param".toList ++ (w ++ body))
  | field {n t d w body : Text} : IsSpacing w → IsDeclared n t d body → n ∉ visibilities → n.head? ≠ some '[' →
      IsAnnotation (.field ⟨n, t, d⟩) ("field".toList ++ (w ++ body))
  | visibleField {n t d v w w' body : Text} : IsSpacing w → v = "public".toList ∨ v = "package".toList → IsSpacing w' →
      IsDeclared n t d body → n.head? ≠ some '[' →
      IsAnnotation (.field ⟨n, t, d⟩) ("field".toList ++ (w ++ (v ++ (w' ++ body))))
  | returns {r : ReturnDoc} {w body : Text} : IsSpacing w → IsReturned r body →
      IsAnnotation (.returns r) ("return".toList ++ (w ++ body))
  | typeAlias {n t w w' : Text} : IsSpacing w → IsWord n → IsSpacing w' → IsWrittenType t →
      IsAnnotation (.typeAlias ⟨n, t⟩) ("alias".toList ++ (w ++ (n ++ (w' ++ t))))

/-- A line with an annotation, behind and before spaces and tabs. -/
inductive IsWritten : DocLine → Text → Prop
  | mk {l : DocLine} {a body b : Text} : (∀ c ∈ a, isSpaceOrTab c = true) → IsAnnotation l body →
      (∀ c ∈ b, isSpaceOrTab c = true) → IsWritten l (a ++ '@' :: (body ++ b))

theorem ofTag_of_isAnnotation (h : IsAnnotation l body) : ofTag body = l := by
  cases h with
  | param hw h =>
    rw [ofTag, hw.splitWord (by decide) h.avoids]
    simp only [param?_of_isDeclared h]
    rfl
  | field hw h hn hkey =>
    rw [ofTag, hw.splitWord (by decide) h.avoids]
    simp only [field?_of_isDeclared h hn hkey]
    rfl
  | visibleField hw hv hw' h hkey =>
    rw [ofTag, hw.splitWord (by decide) ((isWord_of_visible hv).avoids _)]
    simp only [field?_of_visibility h hkey hv hw']
    rfl
  | returns hw h =>
    rw [ofTag, hw.splitWord (by decide) h.avoids]
    simp only [returns?_of_isReturned h]
    rfl
  | typeAlias hw hn hw' ht =>
    rw [ofTag, hw.splitWord (by decide) (hn.avoids _)]
    simp only [alias?_of_isWord hn hw' ht]
    rfl

theorem IsAnnotation.last (h : IsAnnotation l body) : EndsSolid body := by
  cases h with
  | param hw h => exact (h.last.append _).append _
  | field hw h => exact (h.last.append _).append _
  | visibleField hw hv hw' h => exact (((h.last.append _).append _).append _).append _
  | returns hw h => exact (h.last.append _).append _
  | typeAlias hw hn hw' ht => exact (((ht.last.append _).append _).append _).append _

/-- An annotation is read as what it says. -/
theorem ofText_of_isWritten (h : IsWritten l s) : ofText s = l := by
  obtain ⟨ha, hbody, hb⟩ := h
  rename_i a body b
  have htrim : Text.trim (a ++ '@' :: (body ++ b)) = '@' :: body := by
    rw [trim_blank_append fun c hc => isBlank_of_isSpaceOrTab (ha c hc), ← List.cons_append,
      trim_append_blank fun c hc => isBlank_of_isSpaceOrTab (hb c hc)]
    exact trim_of_avoids (avoids_cons.mpr (by decide)) (hbody.last.append ['@']).avoidsLast
  rw [ofText, htrim]
  exact ofTag_of_isAnnotation hbody

/-- Signs, blanks and bars of the type and of the description stay where they are. -/
theorem ofText_field_on_open :
    IsWritten (.field ⟨"on_open", "nil|fun(a: { b: X }): A | B", "Called: first | last."⟩)
      " \t@field package on_open?\tfun(a: { b: X }): A | B   Called: first | last. \t" ∧
    ofText " \t@field package on_open?\tfun(a: { b: X }): A | B   Called: first | last. \t" =
      .field ⟨"on_open", "nil|fun(a: { b: X }): A | B", "Called: first | last."⟩ := by
  have hname : IsName "on_open" := ⟨by decide, by decide⟩
  have htype : IsWrittenType "fun(a: { b: X }): A | B" := ⟨by decide, ⟨'B', by decide, by decide⟩⟩
  have hdescription : IsDescription "Called: first | last." := ⟨⟨'C', by decide, by decide⟩, ⟨'.', by decide, by decide⟩⟩
  have hspace : IsSpacing " " := by decide
  have hdeclared := IsDeclared.nullable hname (w := "\t") (by decide) htype
    (.some (w := "   ") (by decide) hdescription)
  have hwritten := IsWritten.mk (a := " \t") (b := " \t") (List.all_eq_true.mp (by decide))
    (.visibleField hspace (v := "package") (.inr rfl) hspace hdeclared (by decide))
    (List.all_eq_true.mp (by decide))
  have hnil : withNil "fun(a: { b: X }): A | B" = "nil|fun(a: { b: X }): A | B" := by decide
  have hline : " \t".toList ++ '@' :: (("field".toList ++ (" ".toList ++ ("package".toList ++ (" ".toList ++
      (("on_open".toList ++ ['?']) ++ ("\t".toList ++ ("fun(a: { b: X }): A | B".toList ++
        ("   ".toList ++ "Called: first | last.".toList)))))))) ++ " \t".toList) =
      " \t@field package on_open?\tfun(a: { b: X }): A | B   Called: first | last. \t".toList := by decide
  rw [hnil, hline] at hwritten
  exact ⟨hwritten, ofText_of_isWritten hwritten⟩

end DocLine
end PluginManual
