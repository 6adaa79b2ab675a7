import StubGen.FileName

/-!
# StubGen.Proofs.Alias

Which file names share an alias.  Inside an alias, characters that cannot stand in an identifier
become underscores, and so does what sets separators and dashes apart.  Hence an alias does not tell
its stem; it tells the stem up to these confusions (`Confused`):

1. the separators `/` and `.`;
2. any two characters that cannot stand in an identifier, which we call *fillers*;
3. an underscore and two fillers, a separator and `dot` between fillers, a dash and `dash` between
   fillers.

A leading digit counts as if there were a filler in front of it.  `moduleAlias_eq_iff` says that
there are no other confusions.  An *ordinary* name has no fillers, and what is left of the
confusions is the first of them (`confusable_iff_of_ordinary`).
-/

namespace StubGen.FileName

open Text

/-! ## The characters of a stem -/

/-- A character that cannot stand in an identifier and has no spelling of its own in an alias. -/
def isFiller (c : Char) : Bool :=
  !(c == '/' || c == '.' || c == '-' || isWordChar c)

theorem ne_of_isAlphanumeric {c d : Char} (h : isAlphanumeric c = true)
    (hd : isAlphanumeric d = false) : c ≠ d := by
  rintro rfl
  rw [h] at hd
  contradiction

theorem aliasChar_of_isAlphanumeric {c : Char} (h : isAlphanumeric c = true) :
    aliasChar c = [c] := by
  have hunderscore : c ≠ '_' := ne_of_isAlphanumeric h (by decide)
  have hslash : c ≠ '/' := ne_of_isAlphanumeric h (by decide)
  have hdot : c ≠ '.' := ne_of_isAlphanumeric h (by decide)
  have hdash : c ≠ '-' := ne_of_isAlphanumeric h (by decide)
  simp [aliasChar, hunderscore, hslash, hdot, hdash, isWordChar, h]

/-- All fillers look alike in an alias. -/
theorem aliasChar_of_isFiller {c : Char} (h : isFiller c = true) : aliasChar c = ['_'] := by
  simp only [isFiller, Bool.not_eq_true', Bool.or_eq_false_iff, beq_eq_false_iff_ne] at h
  obtain ⟨⟨⟨hslash, hdot⟩, hdash⟩, hword⟩ := h
  have hunderscore : c ≠ '_' := by
    rintro rfl
    exact absurd hword (by decide)
  simp [aliasChar, hunderscore, hslash, hdot, hdash, hword]

theorem isFiller_space : isFiller ' ' = true := by decide

/-- What a character is inside a stem. -/
theorem char_cases (c : Char) :
    isAlphanumeric c = true ∨ c = '_' ∨ c = '/' ∨ c = '.' ∨ c = '-' ∨ isFiller c = true := by
  simp only [isFiller, isWordChar, Bool.not_eq_true', Bool.or_eq_false_iff, beq_eq_false_iff_ne]
  cases isAlphanumeric c with
  | true => exact .inl rfl
  | false => grind

/-! ## Confusions -/

/-- Stems that look alike inside an alias. -/
inductive Confused : List Char → List Char → Prop where
  | refl (s : List Char) : Confused s s
  | symm {s t : List Char} : Confused s t → Confused t s
  | trans {s t u : List Char} : Confused s t → Confused t u → Confused s u
  | append {s s' t t' : List Char} : Confused s t → Confused s' t' → Confused (s ++ s') (t ++ t')
  | separators : Confused ['/'] ['.']
  | fillers {c d : Char} : isFiller c = true → isFiller d = true → Confused [c] [d]
  | underscore {c : Char} : isFiller c = true → Confused ['_'] [c, c]
  | dot {c : Char} : isFiller c = true → Confused ['.'] [c, 'd', 'o', 't', c]
  | dash {c : Char} : isFiller c = true → Confused ['-'] [c, 'd', 'a', 's', 'h', c]

/-- The characters of a stem as an alias shows them. -/
def encode (s : List Char) : List Char :=
  s.flatMap aliasChar

theorem encode_append (s t : List Char) : encode (s ++ t) = encode s ++ encode t :=
  List.flatMap_append

/-- Stems that are confused do look alike. -/
theorem encode_eq_of_confused {s t : List Char} (h : Confused s t) : encode s = encode t := by
  induction h with
  | refl => rfl
  | symm _ ih => exact ih.symm
  | trans _ _ ihs iht => exact ihs.trans iht
  | append _ _ ihs iht => rw [encode_append, encode_append, ihs, iht]
  | separators => rfl
  | fillers hc hd => simp [encode, aliasChar_of_isFiller hc, aliasChar_of_isFiller hd]
  | underscore hc =>
      have hunderscore : aliasChar '_' = ['_', '_'] := rfl
      simp [encode, aliasChar_of_isFiller hc, hunderscore]
  | dot hc =>
      have hdot : encode ['.'] = '_' :: encode ['d', 'o', 't'] ++ ['_'] := rfl
      rw [hdot]
      simp [encode, aliasChar_of_isFiller hc]
  | dash hc =>
      have hdash : encode ['-'] = '_' :: encode ['d', 'a', 's', 'h'] ++ ['_'] := rfl
      rw [hdash]
      simp [encode, aliasChar_of_isFiller hc]

/-- Characters of an alias as those of a stem that has no underscores: they are spaces. -/
def respell (s : List Char) : List Char :=
  s.map fun c => if c = '_' then ' ' else c

/-- A character is confused with the way in which an alias spells it. -/
theorem confused_respell_aliasChar (c : Char) : Confused [c] (respell (aliasChar c)) := by
  rcases char_cases c with h | rfl | rfl | rfl | rfl | h
  · have hne : c ≠ '_' := ne_of_isAlphanumeric h (by decide)
    simp [aliasChar_of_isAlphanumeric h, respell, hne, Confused.refl]
  · exact .underscore isFiller_space
  · exact .trans .separators (.dot isFiller_space)
  · exact .dot isFiller_space
  · exact .dash isFiller_space
  · rw [aliasChar_of_isFiller h]
    exact .fillers h isFiller_space

/-- A stem is confused with its alias, read as a stem. -/
theorem confused_respell_encode (s : List Char) : Confused s (respell (encode s)) := by
  induction s with
  | nil => exact .refl []
  | cons c s ih =>
      have hsplit : respell (encode (c :: s)) = respell (aliasChar c) ++ respell (encode s) := by
        simp [respell, encode]
      rw [hsplit]
      exact .append (confused_respell_aliasChar c) ih

/-- Stems look alike inside an alias exactly when they are confused. -/
theorem encode_eq_iff {s t : List Char} : encode s = encode t ↔ Confused s t := by
  refine ⟨fun h => ?_, encode_eq_of_confused⟩
  have ht := confused_respell_encode t
  rw [← h] at ht
  exact .trans (confused_respell_encode s) ht.symm

/-! ## Leading digits -/

/-- A stem with a filler in front, if it starts with a digit. -/
def guardFront : List Char → List Char
  | [] => []
  | c :: rest => if isAlphanumeric c && isDigitChar c then ' ' :: c :: rest else c :: rest

/-- The underscore in front of a leading digit is the spelling of a filler. -/
theorem guardDigit_encode (s : List Char) : guardDigit (encode s) = encode (guardFront s) := by
  cases s with
  | nil => rfl
  | cons c rest =>
      have hcons : encode (c :: rest) = aliasChar c ++ encode rest := rfl
      cases halnum : isAlphanumeric c with
      | true =>
          rw [hcons, aliasChar_of_isAlphanumeric halnum, guardFront, halnum]
          simp only [List.singleton_append, guardDigit, Bool.true_and]
          split
          · simp [encode, aliasChar_of_isAlphanumeric halnum, aliasChar_of_isFiller isFiller_space]
          · simp [encode, aliasChar_of_isAlphanumeric halnum]
      | false =>
          -- all other characters are spelled with an underscore in front, which is no digit
          have hhead : ∃ tail, aliasChar c = '_' :: tail := by
            rcases char_cases c with h | rfl | rfl | rfl | rfl | h
            · rw [h] at halnum
              contradiction
            · exact ⟨_, rfl⟩
            · exact ⟨_, rfl⟩
            · exact ⟨_, rfl⟩
            · exact ⟨_, rfl⟩
            · exact ⟨[], aliasChar_of_isFiller h⟩
          obtain ⟨tail, htail⟩ := hhead
          have hdigit : isDigitChar '_' = false := by decide
          rw [guardFront, halnum, hcons, htail]
          simp [guardDigit, hdigit, hcons, htail]

/-- Two names whose aliases are the same. -/
def Confusable (first second : String) : Prop :=
  Confused (guardFront (stem first).toList) (guardFront (stem second).toList)

/-- **The kernel of aliases**: two files have the same alias exactly when their names are
confusable. -/
theorem moduleAlias_eq_iff {first second : String} :
    moduleAlias first = moduleAlias second ↔ Confusable first second := by
  rw [Confusable, ← encode_eq_iff, ← guardDigit_encode, ← guardDigit_encode]
  unfold moduleAlias encode
  rw [String.append_left_inj, String.ofList_inj]

/-! ## Ordinary names -/

/-- A stem without fillers. -/
def Ordinary (s : List Char) : Prop :=
  ∀ c ∈ s, isFiller c = false

-- by the list, not by the finitely many characters
instance (s : List Char) : Decidable (Ordinary s) :=
  List.decidableBAll (fun c => isFiller c = false) s

/-- A stem with dots for its slashes. -/
def dotted (s : List Char) : List Char :=
  s.map fun c => if c = '/' then '.' else c

/-- A stem without fillers and slashes. -/
def Dotted (s : List Char) : Prop :=
  ∀ c ∈ s, isFiller c = false ∧ c ≠ '/'

/-- With dots for its slashes, a stem without fillers is a dotted one. -/
theorem dotted_of_ordinary {s : List Char} (h : Ordinary s) : Dotted (dotted s) := by
  intro c hc
  obtain ⟨d, hd, rfl⟩ := List.mem_map.mp hc
  have hdot : isFiller '.' = false := by decide
  split
  · exact ⟨hdot, by decide⟩
  · next hne => exact ⟨h d hd, hne⟩

/-- An alias does not tell slashes from dots. -/
theorem encode_dotted (s : List Char) : encode (dotted s) = encode s := by
  have hchar : ∀ c, aliasChar (if c = '/' then '.' else c) = aliasChar c := by
    intro c
    split
    · next hslash => rw [hslash]; rfl
    · rfl
  simp [encode, dotted, List.flatMap_map, hchar]

/-- Whether a digit is guarded does not depend on slashes. -/
theorem guardFront_dotted (s : List Char) : guardFront (dotted s) = dotted (guardFront s) := by
  cases s with
  | nil => rfl
  | cons c rest =>
      by_cases hslash : c = '/'
      · subst hslash
        rfl
      · simp only [dotted, List.map_cons, if_neg hslash, guardFront]
        split <;> simp [hslash]

/-- What a character of a dotted stem becomes: itself, two underscores, or a word between
underscores. -/
theorem spelling_cases {c : Char} (h : isFiller c = false ∧ c ≠ '/') :
    (isAlphanumeric c = true ∧ aliasChar c = [c]) ∨ (c = '_' ∧ aliasChar c = ['_', '_']) ∨
      (c = '.' ∧ aliasChar c = ['_', 'd', 'o', 't', '_']) ∨
      (c = '-' ∧ aliasChar c = ['_', 'd', 'a', 's', 'h', '_']) := by
  rcases char_cases c with hc | rfl | rfl | rfl | rfl | hc
  · exact .inl ⟨hc, aliasChar_of_isAlphanumeric hc⟩
  · exact .inr (.inl ⟨rfl, rfl⟩)
  · exact absurd rfl h.2
  · exact .inr (.inr (.inl ⟨rfl, rfl⟩))
  · exact .inr (.inr (.inr ⟨rfl, rfl⟩))
  · rw [h.1] at hc
    contradiction

/-- The spellings of ordinary characters form a prefix code. -/
theorem aliasChar_append_cancel {c d : Char} {s t : List Char}
    (hc : isFiller c = false ∧ c ≠ '/') (hd : isFiller d = false ∧ d ≠ '/')
    (h : aliasChar c ++ s = aliasChar d ++ t) : c = d ∧ s = t := by
  have hunderscore : isAlphanumeric '_' = false := by decide
  -- of the sixteen pairs, those of one kind cancel, and the others differ at their third letter at
  -- the latest
  rcases spelling_cases hc with ⟨hc, hspell⟩ | ⟨rfl, hspell⟩ | ⟨rfl, hspell⟩ | ⟨rfl, hspell⟩ <;>
    rcases spelling_cases hd with ⟨hd, hother⟩ | ⟨rfl, hother⟩ | ⟨rfl, hother⟩ | ⟨rfl, hother⟩ <;>
    simp only [hspell, hother, List.cons_append, List.nil_append, List.cons.injEq] at h <;> grind

theorem aliasChar_ne_nil (c : Char) : aliasChar c ≠ [] := by
  rcases char_cases c with h | rfl | rfl | rfl | rfl | h
  · simp [aliasChar_of_isAlphanumeric h]
  · decide
  · decide
  · decide
  · decide
  · simp [aliasChar_of_isFiller h]

/-- A stem without fillers and slashes can be read off its alias: its first character is known by
what it becomes there. -/
theorem encode_injective {s t : List Char} (hs : Dotted s) (ht : Dotted t)
    (h : encode s = encode t) : s = t := by
  induction s generalizing t with
  | nil =>
      cases t with
      | nil => rfl
      | cons d t => exact absurd (List.append_eq_nil_iff.mp h.symm).1 (aliasChar_ne_nil d)
  | cons c s ih =>
      cases t with
      | nil => exact absurd (List.append_eq_nil_iff.mp h).1 (aliasChar_ne_nil c)
      | cons d t =>
          obtain ⟨hc, hsrest⟩ := List.forall_mem_cons.mp hs
          obtain ⟨hd, htrest⟩ := List.forall_mem_cons.mp ht
          obtain ⟨rfl, hrest⟩ := aliasChar_append_cancel hc hd h
          rw [ih hsrest htrest hrest]

/-- No ordinary stem looks like one with a leading digit behind a filler. -/
theorem encode_ne_of_isDigitChar {c : Char} (halnum : isAlphanumeric c = true)
    (hdigit : isDigitChar c = true) (rest : List Char) {t : List Char} (ht : Dotted t) :
    encode (' ' :: c :: rest) ≠ encode t := by
  have hleft : encode (' ' :: c :: rest) = '_' :: c :: encode rest := by
    simp [encode, aliasChar_of_isAlphanumeric halnum, aliasChar_of_isFiller isFiller_space]
  intro h
  rw [hleft] at h
  cases t with
  | nil => simp [encode] at h
  | cons d t =>
      have hright : encode (d :: t) = aliasChar d ++ encode t := rfl
      rw [hright] at h
      rcases spelling_cases (ht d List.mem_cons_self) with
        ⟨hd, hspell⟩ | ⟨rfl, hspell⟩ | ⟨rfl, hspell⟩ | ⟨rfl, hspell⟩
      · rw [hspell] at h
        exact ne_of_isAlphanumeric hd (by decide) (List.cons.inj h).1.symm
      · have hc : c = '_' := by simp_all
        exact ne_of_isAlphanumeric halnum (by decide) hc
      · have hc : c = 'd' := by simp_all
        exact absurd hdigit (by rw [hc]; decide)
      · have hc : c = 'd' := by simp_all
        exact absurd hdigit (by rw [hc]; decide)

/-- Only a digit at the front is guarded. -/
theorem guardFront_cases (s : List Char) :
    guardFront s = s ∨ ∃ c rest, isAlphanumeric c = true ∧ isDigitChar c = true ∧
      s = c :: rest ∧ guardFront s = ' ' :: c :: rest := by
  cases s with
  | nil => exact .inl rfl
  | cons c rest =>
      by_cases h : (isAlphanumeric c && isDigitChar c) = true
      · obtain ⟨halnum, hdigit⟩ := Bool.and_eq_true_iff.mp h
        exact .inr ⟨c, rest, halnum, hdigit, rfl, if_pos h⟩
      · exact .inl (if_neg h)

/-- A guarded digit is not mistaken for an underscore that was there before. -/
theorem encode_guardFront_injective {s t : List Char} (hs : Dotted s) (ht : Dotted t)
    (h : encode (guardFront s) = encode (guardFront t)) : s = t := by
  rcases guardFront_cases s with hsame | ⟨c, rest, halnum, hdigit, rfl, hguard⟩
  · rcases guardFront_cases t with htsame | ⟨d, rest, halnum, hdigit, rfl, hguard⟩
    · rw [hsame, htsame] at h
      exact encode_injective hs ht h
    · rw [hsame, hguard] at h
      exact absurd h.symm (encode_ne_of_isDigitChar halnum hdigit rest hs)
  · rcases guardFront_cases t with htsame | ⟨d, other, _, _, rfl, hother⟩
    · rw [htsame, hguard] at h
      exact absurd h (encode_ne_of_isDigitChar halnum hdigit rest ht)
    · rw [hguard, hother] at h
      exact encode_injective hs ht (List.cons_inj_right _ |>.mp h)

/-- Of the confusions between ordinary names, that of the separators is left. -/
theorem confusable_iff_of_ordinary {first second : String} (hfirst : Ordinary (stem first).toList)
    (hsecond : Ordinary (stem second).toList) :
    Confusable first second ↔ dotted (stem first).toList = dotted (stem second).toList := by
  rw [Confusable, ← encode_eq_iff, ← encode_dotted (guardFront _), ← guardFront_dotted,
    ← encode_dotted (guardFront (stem second).toList), ← guardFront_dotted]
  refine ⟨fun h => ?_, fun h => by rw [h]⟩
  exact encode_guardFront_injective (dotted_of_ordinary hfirst) (dotted_of_ordinary hsecond) h

end StubGen.FileName
