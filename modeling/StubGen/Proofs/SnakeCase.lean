import StubGen.Proofs.AliasNames

/-!
# StubGen.Proofs.SnakeCase

Method names in snake case, for names in ASCII.

1. Splitting a name into words puts an underscore before each position at which a word starts, and
   nowhere else (`splitWords_eq_wordsApart`).  What stands around an underscore that is added is a
   letter or digit and a letter, so that none is added at an end or beside another one
   (`doubled_splitWords`).
2. A name without upper-case letters is in snake case already (`snakeCase_of_noUpper`).
3. No reserved word is another one with an underscore behind it (`isKeyword_append_underscore`), so
   names that were kept apart from the reserved words stay as they are (`methodName_methodName`).
-/

namespace StubGen.Identifier

open Text FileName

/-! ## Positions of words -/

/-- Whether a word starts at a position of a name: there is an upper-case letter, and it follows a
lower-case letter or a digit, or it follows an upper-case letter and precedes a lower-case one. -/
def startsWord (chars : List Char) : Nat → Bool
  | 0 => false
  | i + 1 =>
    chars[i + 1]?.any Char.isUpper &&
      (chars[i]?.any (fun c => c.isLower || c.isDigit) ||
        chars[i]?.any Char.isUpper && chars[i + 2]?.any Char.isLower)

/-- A name with an underscore before each position at which a word starts. -/
def wordsApart (chars : List Char) : List Char :=
  chars.zipIdx.flatMap fun (c, i) => if startsWord chars i then ['_', c] else [c]

/-- At the second character, the two ways to tell where words start agree. -/
theorem startsWord_one (before c : Char) (after : List Char) :
    startsWord (before :: c :: after) 1 = isBoundary before c after := by
  cases after <;> simp [startsWord, isBoundary, startsLower]

/-- The positions behind the first two do not see the first character. -/
theorem wordsApart_cons_cons (before c : Char) (after : List Char) :
    wordsApart (before :: c :: after) =
      if isBoundary before c after then before :: '_' :: wordsApart (c :: after)
      else before :: wordsApart (c :: after) := by
  have hfirst (chars : List Char) : startsWord chars 0 = false := rfl
  simp only [wordsApart, List.zipIdx_cons, List.flatMap_cons, hfirst, Nat.zero_add,
    startsWord_one, List.zipIdx_succ, List.flatMap_map]
  cases isBoundary before c after <;> rfl

/-- **Words are split exactly where they start.**  The splitting looks at three characters at a
time, while words start at positions of the whole name. -/
theorem splitWords_eq_wordsApart (chars : List Char) : splitWords chars = wordsApart chars := by
  fun_induction splitWords chars with
  | case1 before c after hboundary ih => rw [wordsApart_cons_cons, if_pos hboundary, ih]
  | case2 before c after hboundary ih => rw [wordsApart_cons_cons, if_neg hboundary, ih]
  | case3 chars hshort =>
      rcases chars with _ | ⟨c, _ | ⟨d, rest⟩⟩
      · rfl
      · rfl
      · exact absurd rfl (hshort c d rest)

/-! ## Underscores -/

/-- How often an underscore stands right behind another one. -/
def doubled (chars : List Char) : Nat :=
  (chars.zip chars.tail).count ('_', '_')

/-- Doubled underscores are counted pair by pair. -/
theorem doubled_cons_cons (c d : Char) (rest : List Char) :
    doubled (c :: d :: rest) = doubled (d :: rest) + if c = '_' ∧ d = '_' then 1 else 0 := by
  simp [doubled, List.count_cons]

/-- Words never start next to an underscore. -/
theorem ne_underscore_of_isBoundary {before c : Char} {after : List Char}
    (h : isBoundary before c after = true) : before ≠ '_' ∧ c ≠ '_' := by
  simp only [isBoundary, Bool.and_eq_true, Bool.or_eq_true] at h
  constructor
  · rintro rfl
    simp [show Char.isLower '_' = false from rfl, show Char.isDigit '_' = false from rfl,
      show Char.isUpper '_' = false from rfl] at h
  · rintro rfl
    exact absurd h.1 (by decide)

/-- Splitting into words doubles no underscore. -/
theorem doubled_splitWords (chars : List Char) : doubled (splitWords chars) = doubled chars := by
  fun_induction splitWords chars with
  | case1 before c after hboundary ih =>
      obtain ⟨hbefore, hc⟩ := ne_underscore_of_isBoundary hboundary
      obtain ⟨tail, htail⟩ := splitWords_cons c after
      rw [htail] at ih ⊢
      rw [doubled_cons_cons, doubled_cons_cons, doubled_cons_cons, ih]
      simp [hbefore, hc]
  | case2 before c after _ ih =>
      obtain ⟨tail, htail⟩ := splitWords_cons c after
      rw [htail] at ih ⊢
      rw [doubled_cons_cons, doubled_cons_cons, ih]
  | case3 => rfl

/-- A name keeps its first character. -/
theorem head?_splitWords (chars : List Char) : (splitWords chars).head? = chars.head? := by
  cases chars with
  | nil => rfl
  | cons c rest =>
      obtain ⟨tail, htail⟩ := splitWords_cons c rest
      rw [htail]
      rfl

/-- A name keeps its last character. -/
theorem getLast?_splitWords (chars : List Char) :
    (splitWords chars).getLast? = chars.getLast? := by
  fun_induction splitWords chars with
  | case1 before c after _ ih =>
      obtain ⟨tail, htail⟩ := splitWords_cons c after
      rw [htail] at ih ⊢
      simpa [List.getLast?_cons_cons] using ih
  | case2 before c after _ ih =>
      obtain ⟨tail, htail⟩ := splitWords_cons c after
      rw [htail] at ih ⊢
      simpa [List.getLast?_cons_cons] using ih
  | case3 => rfl

/-- Underscores apart, splitting into words changes nothing. -/
theorem filter_splitWords (chars : List Char) :
    (splitWords chars).filter (· != '_') = chars.filter (· != '_') := by
  fun_induction splitWords chars with
  | case1 before c after _ ih => simp only [List.filter_cons, ih]; rfl
  | case2 before c after _ ih => simp only [List.filter_cons, ih]
  | case3 => rfl

/-! ## Lower case -/

/-- Lower-casing neither makes nor loses underscores. -/
theorem toLower_eq_underscore_iff (c : Char) : c.toLower = '_' ↔ c = '_' := by
  by_cases hascii : c.toNat < 0x80
  · exact forall_ascii (fun c => c.toLower = '_' ↔ c = '_') (by decide +kernel) hascii
  · have hsame : c.toLower = c := by
      unfold Char.toLower
      rw [dif_neg]
      rintro ⟨-, hupper⟩
      have hcode : c.toNat ≤ 90 := hupper
      omega
    rw [hsame]

/-- Lower-casing keeps the count of doubled underscores. -/
theorem doubled_map_toLower (chars : List Char) :
    doubled (chars.map Char.toLower) = doubled chars := by
  induction chars with
  | nil => rfl
  | cons c rest ih =>
      cases rest with
      | nil => rfl
      | cons d rest =>
          rw [List.map_cons] at ih
          rw [List.map_cons, List.map_cons, doubled_cons_cons, doubled_cons_cons, ih]
          simp only [toLower_eq_underscore_iff]

theorem map_toLower_eq_underscore_iff (c? : Option Char) :
    c?.map Char.toLower = some '_' ↔ c? = some '_' := by
  cases c? <;> simp [toLower_eq_underscore_iff]

/-- It does not matter whether underscores are dropped before or after lower-casing. -/
theorem filter_map_toLower (chars : List Char) :
    (chars.map Char.toLower).filter (· != '_') =
      (chars.filter (· != '_')).map Char.toLower := by
  rw [List.filter_map]
  congr 2
  funext c
  rw [Function.comp_apply, Bool.eq_iff_iff]
  simp only [bne_iff_ne, ne_eq, toLower_eq_underscore_iff]

/-- In ASCII, snake case is splitting into words and then lower-casing each letter. -/
theorem toList_snakeCase {name : String} (h : IsAscii name) :
    (snakeCase name).toList = (splitWords name.toList).map Char.toLower := by
  rw [snakeCase, String.toList_ofList, lowerChars_of_ascii (ascii_of_mem_splitWords h)]

/-- A name without upper-case letters. -/
def NoUpper (name : String) : Prop :=
  ∀ c ∈ name.toList, c.isUpper = false

theorem NoUpper.append {first second : String} (hfirst : NoUpper first) (hsecond : NoUpper second) :
    NoUpper (first ++ second) := by
  rw [NoUpper, String.toList_append]
  exact List.forall_mem_append.mpr ⟨hfirst, hsecond⟩

theorem isAscii_append {first second : String} (hfirst : IsAscii first) (hsecond : IsAscii second) :
    IsAscii (first ++ second) := by
  rw [IsAscii, String.toList_append]
  exact List.forall_mem_append.mpr ⟨hfirst, hsecond⟩

/-- Snake case keeps to ASCII. -/
theorem isAscii_snakeCase {name : String} (h : IsAscii name) : IsAscii (snakeCase name) := by
  rw [IsAscii, toList_snakeCase h, List.forall_mem_map]
  exact fun c hc => forall_ascii (fun c => c.toLower.toNat < 0x80) (by decide +kernel)
    (ascii_of_mem_splitWords h c hc)

/-- Snake case has no upper-case letters. -/
theorem noUpper_snakeCase {name : String} (h : IsAscii name) : NoUpper (snakeCase name) := by
  rw [NoUpper, toList_snakeCase h, List.forall_mem_map]
  exact fun c hc => forall_ascii (fun c => c.toLower.isUpper = false) (by decide +kernel)
    (ascii_of_mem_splitWords h c hc)

/-- Without upper-case letters there are no words to split. -/
theorem splitWords_of_noUpper {chars : List Char} (h : ∀ c ∈ chars, c.isUpper = false) :
    splitWords chars = chars := by
  fun_induction splitWords chars with
  | case1 before c after hboundary ih =>
      have hupper : c.isUpper = true := (Bool.and_eq_true_iff.mp hboundary).1
      rw [h c (by simp)] at hupper
      contradiction
  | case2 before c after _ ih => rw [ih fun d hd => h d (List.mem_cons_of_mem _ hd)]
  | case3 => rfl

/-- A name without upper-case letters is in snake case. -/
theorem snakeCase_of_noUpper {name : String} (hascii : IsAscii name) (h : NoUpper name) :
    snakeCase name = name := by
  apply String.toList_injective
  rw [toList_snakeCase hascii, splitWords_of_noUpper h]
  refine (List.map_congr_left fun c hc => ?_).trans (List.map_id _)
  exact forall_ascii (fun c => c.isUpper = false → c.toLower = c) (by decide +kernel)
    (hascii c hc) (h c hc)

/-! ## Reserved words -/

/-- No keyword is another one with an underscore behind it. -/
theorem isKeyword_append_underscore {name : String} (h : isKeyword name = true) :
    isKeyword (name ++ "_") = false := by
  have hwords : ∀ word ∈ keywords, (!isKeyword (word ++ "_")) = true :=
    List.all_eq_true.mp rfl
  simpa using hwords name (by simpa [isKeyword] using h)

/-- **A name that avoids keywords is none.** -/
theorem isKeyword_avoidKeyword (name : String) : isKeyword (avoidKeyword name) = false := by
  unfold avoidKeyword
  split
  · next hkeyword => exact isKeyword_append_underscore hkeyword
  · next hkeyword => simpa using hkeyword

theorem avoidKeyword_of_not_isKeyword {name : String} (h : isKeyword name = false) :
    avoidKeyword name = name := by
  simp [avoidKeyword, h]

/-- The name of a function is the method in snake case, perhaps with an underscore behind it. -/
theorem methodName_cases (name : String) :
    methodName name = snakeCase name ∨ methodName name = snakeCase name ++ "_" := by
  unfold methodName avoidKeyword
  split
  · exact .inr rfl
  · exact .inl rfl

/-- The names of functions keep to ASCII. -/
theorem isAscii_methodName {name : String} (h : IsAscii name) : IsAscii (methodName name) := by
  rcases methodName_cases name with heq | heq
  · rw [heq]
    exact isAscii_snakeCase h
  · rw [heq]
    exact isAscii_append (isAscii_snakeCase h) (by decide)

/-- The names of functions have no upper-case letters. -/
theorem noUpper_methodName {name : String} (h : IsAscii name) : NoUpper (methodName name) := by
  rcases methodName_cases name with heq | heq
  · rw [heq]
    exact noUpper_snakeCase h
  · rw [heq]
    exact (noUpper_snakeCase h).append (by simp [NoUpper])

/-- **The name of a function is left as it is** where it is taken for the name of a method. -/
theorem methodName_methodName {name : String} (h : IsAscii name) :
    methodName (methodName name) = methodName name := by
  have hsnake := snakeCase_of_noUpper (isAscii_methodName h) (noUpper_methodName h)
  nth_rewrite 1 [methodName]
  rw [hsnake]
  exact avoidKeyword_of_not_isKeyword (isKeyword_avoidKeyword _)

/-! ## Snake case -/

/-- A name in snake case, seen from the name that it was made of. -/
structure IsSnakeCaseOf (name result : List Char) : Prop where
  noUpper : ∀ c ∈ result, c.isUpper = false
  /-- Underscores apart, all characters are there, in lower case. -/
  letters : result.filter (· != '_') = (name.map Char.toLower).filter (· != '_')
  /-- Underscores are added where words start, and nowhere else. -/
  added : result = (wordsApart name).map Char.toLower
  leading : result.head? = some '_' ↔ name.head? = some '_'
  trailing : result.getLast? = some '_' ↔ name.getLast? = some '_'
  doubled : doubled result = doubled name

/-- Every name in ASCII is brought into snake case. -/
theorem isSnakeCaseOf_snakeCase {name : String} (h : IsAscii name) :
    IsSnakeCaseOf name.toList (snakeCase name).toList where
  noUpper := noUpper_snakeCase h
  letters := by
    rw [toList_snakeCase h, filter_map_toLower, filter_map_toLower, filter_splitWords]
  added := by rw [toList_snakeCase h, splitWords_eq_wordsApart]
  leading := by
    rw [toList_snakeCase h, List.head?_map, map_toLower_eq_underscore_iff, head?_splitWords]
  trailing := by
    rw [toList_snakeCase h, List.getLast?_map, map_toLower_eq_underscore_iff, getLast?_splitWords]
  doubled := by rw [toList_snakeCase h, doubled_map_toLower, doubled_splitWords]

/-- Whether a name is an identifier without upper-case letters. -/
def isLowerIdentifier (name : String) : Bool :=
  match name.toList with
  | [] => false
  | first :: rest =>
    (first.isLower || first == '_') && rest.all fun c => c.isLower || c.isDigit || c == '_'

/-- An identifier without upper-case letters is a lower-case one. -/
theorem isLowerIdentifier_of_isIdentifier {name : String} (h : isIdentifier name = true)
    (hupper : NoUpper name) : isLowerIdentifier name = true := by
  unfold isIdentifier at h
  unfold isLowerIdentifier
  unfold NoUpper at hupper
  cases hchars : name.toList with
  | nil => simp [hchars] at h
  | cons first rest =>
      rw [hchars, List.forall_mem_cons] at hupper
      simp only [hchars, Bool.and_eq_true, Bool.or_eq_true, List.all_eq_true] at h ⊢
      unfold isNameChar Char.isAlphanum Char.isAlpha at h
      simp only [hupper.1, Bool.false_or] at h
      refine ⟨h.1, fun c hc => ?_⟩
      have hname := h.2 c hc
      rw [hupper.2 c hc, Bool.false_or] at hname
      simpa only [Bool.or_eq_true] using hname

/-- The name of a function starts as that of its method does, in lower case. -/
theorem exists_head_methodName {name : String} (hascii : IsAscii name) {first : Char}
    {rest : List Char} (hname : name.toList = first :: rest) :
    ∃ more, (methodName name).toList = first.toLower :: more := by
  obtain ⟨tail, htail⟩ := splitWords_cons first rest
  have hsnake : (snakeCase name).toList = first.toLower :: tail.map Char.toLower := by
    rw [toList_snakeCase hascii, hname, htail, List.map_cons]
  rcases methodName_cases name with heq | heq
  · exact ⟨_, by rw [heq, hsnake]⟩
  · exact ⟨_, by rw [heq, String.toList_append, hsnake, List.cons_append]⟩

/-- The name of a function is an identifier if that of its method is. -/
theorem isIdentifier_methodName {name : String} (h : isIdentifier name = true) :
    isIdentifier (methodName name) = true := by
  have hchars := hasNameChars_of_isIdentifier h
  unfold isIdentifier at h
  cases hname : name.toList with
  | nil => simp [hname] at h
  | cons first rest =>
      have hfirst : (first.isAlpha || first == '_') = true := by
        simp only [hname, Bool.and_eq_true] at h
        exact h.1
      have hdigit : first.toLower.isDigit = false :=
        forall_ascii (fun c => (c.isAlpha || c == '_') = true → c.toLower.isDigit = false)
          (by decide +kernel) (hchars.ascii first (by simp [hname])) hfirst
      obtain ⟨more, hmore⟩ := exists_head_methodName hchars.ascii hname
      exact isIdentifier_of_hasNameChars hmore hdigit (hasNameChars_methodName hchars)

/-- **Method names become stable, valid names without losing characters.**  Snake case is lower case
with an underscore added exactly where a word starts, and doing it twice changes nothing.  The
methods that identifiers are given are identifiers in lower case, and no reserved words. -/
theorem method_names_snake_case {name : String} (hascii : IsAscii name) :
    IsSnakeCaseOf name.toList (snakeCase name).toList ∧
    snakeCase (snakeCase name) = snakeCase name ∧
    methodName (methodName name) = methodName name ∧
    (isIdentifier name = true →
      isLowerIdentifier (methodName name) = true ∧ methodName name ∉ keywords) := by
  refine ⟨isSnakeCaseOf_snakeCase hascii,
    snakeCase_of_noUpper (isAscii_snakeCase hascii) (noUpper_snakeCase hascii),
    methodName_methodName hascii, fun hidentifier => ⟨?_, ?_⟩⟩
  · exact isLowerIdentifier_of_isIdentifier (isIdentifier_methodName hidentifier)
      (noUpper_methodName hascii)
  · have hkeyword : isKeyword (methodName name) = false := isKeyword_avoidKeyword _
    simpa [isKeyword] using hkeyword

theorem method_names_snake_case_acronyms :
    snakeCase "__PutHTTP2_BodyOF__X" = "__put_http2_body_of__x" ∧
    IsSnakeCaseOf "__PutHTTP2_BodyOF__X".toList (snakeCase "__PutHTTP2_BodyOF__X").toList ∧
    methodName "Class" = "class_" ∧ methodName (methodName "Class") = methodName "Class" ∧
    isLowerIdentifier (methodName "Class") = true ∧ methodName "Class" ∉ keywords := by
  have hacronyms := method_names_snake_case (show IsAscii "__PutHTTP2_BodyOF__X" by decide)
  have hword := method_names_snake_case (show IsAscii "Class" by decide)
  have hidentifier : isIdentifier "Class" = true := by decide +kernel
  exact ⟨by decide +kernel, hacronyms.1, by decide +kernel, hword.2.2.1,
    hword.2.2.2 hidentifier⟩

end StubGen.Identifier
