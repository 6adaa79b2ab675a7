import Mathlib.Data.List.Infix
import Mathlib.Data.List.Sections
import StubGen.Proofs.Lines
import StubGen.Proofs.PlainNames

/-!
# StubGen.Proofs.MethodNames

What the names of functions and trace wrappers are made of, for method names in ASCII.

1. Lower-casing works character by character (`lowerChars_of_ascii`), and splitting into words adds
   underscores only (`mem_splitWords`).
2. An underscore that is added stands between a letter or digit and a letter
   (`joinsWords_of_splitWords_ne`).  A name without such an underscore comes from a method name of
   the same length, which differs from it in case at most (`mem_caseVariants`); there are finitely
   many of these.
3. Functions and trace wrappers of identifiers have characters of identifiers only
   (`hasNameChars_methodName`, `hasNameChars_traceAttribute`).
-/

namespace StubGen.Identifier

open Text

/-! ## Lower case -/

/-- What holds of the first 128 characters holds of every character in ASCII. -/
theorem forall_ascii (p : Char → Prop) (h : ∀ code < 0x80, p (Char.ofNat code)) {c : Char}
    (hc : c.toNat < 0x80) : p c := by
  have hcode := h c.toNat hc
  rwa [Char.ofNat_toNat] at hcode

/-- In ASCII, letters are lower-cased one by one, whatever stands in front of them. -/
theorem lowerFrom_of_ascii {before chars : List Char} (h : ∀ c ∈ chars, c.toNat < 0x80) :
    lowerFrom before chars = chars.map Char.toLower := by
  induction chars generalizing before with
  | nil => rfl
  | cons c rest ih =>
      rw [List.forall_mem_cons] at h
      have hsigma : c ≠ 'Σ' := by
        rintro rfl
        exact absurd h.1 (by decide)
      rw [lowerFrom, if_neg hsigma, lowerChar, if_pos h.1, ih h.2]
      rfl

theorem lowerChars_of_ascii {chars : List Char} (h : ∀ c ∈ chars, c.toNat < 0x80) :
    lowerChars chars = chars.map Char.toLower :=
  lowerFrom_of_ascii h

/-! ## Words -/

/-- Splitting into words adds underscores only. -/
theorem mem_splitWords {chars : List Char} {c : Char} (h : c ∈ splitWords chars) :
    c ∈ chars ∨ c = '_' := by
  fun_induction splitWords chars <;> grind

/-- Splitting into words adds nothing at the front. -/
theorem splitWords_cons (c : Char) (rest : List Char) :
    ∃ tail, splitWords (c :: rest) = c :: tail := by
  cases rest with
  | nil => exact ⟨[], rfl⟩
  | cons d rest =>
      rw [splitWords]
      split
      · exact ⟨_, rfl⟩
      · exact ⟨_, rfl⟩

/-- Whether an underscore stands between a letter or digit and a letter. -/
def joinsWords (chars : List Char) : Bool :=
  chars.tails.any fun
    | before :: '_' :: after :: _ => before.isAlphanum && after.isAlpha
    | _ => false

/-- Splitting into words adds an underscore between two words, or none at all. -/
theorem splitWords_cases (chars : List Char) :
    splitWords chars = chars ∨
      ∃ front before after back, splitWords chars = front ++ before :: '_' :: after :: back ∧
        before.isAlphanum = true ∧ after.isUpper = true := by
  fun_induction splitWords chars with
  | case1 before c after hboundary ih =>
      obtain ⟨tail, htail⟩ := splitWords_cons c after
      have hc : c.isUpper = true ∧ before.isAlphanum = true := by
        unfold Char.isAlphanum Char.isAlpha
        simp only [isBoundary, Bool.and_eq_true, Bool.or_eq_true] at hboundary ⊢
        tauto
      exact .inr ⟨[], before, c, tail, by rw [htail]; rfl, hc.2, hc.1⟩
  | case2 before c after _ ih =>
      rcases ih with ih | ⟨front, x, y, back, ih, hx, hy⟩
      · exact .inl (by rw [ih])
      · exact .inr ⟨before :: front, x, y, back, by rw [ih]; rfl, hx, hy⟩
  | case3 => exact .inl rfl

theorem ascii_of_mem_splitWords {chars : List Char} (h : ∀ c ∈ chars, c.toNat < 0x80) :
    ∀ c ∈ splitWords chars, c.toNat < 0x80 := by
  intro c hc
  rcases mem_splitWords hc with hmem | rfl
  · exact h c hmem
  · decide

/-- Where words were split, an underscore stands between a letter or digit and a letter. -/
theorem joinsWords_of_splitWords_ne {chars : List Char} (hascii : ∀ c ∈ chars, c.toNat < 0x80)
    (h : splitWords chars ≠ chars) : joinsWords ((splitWords chars).map Char.toLower) = true := by
  obtain ⟨front, before, after, back, hsplit, hbefore, hafter⟩ :=
    (splitWords_cases chars).resolve_left h
  have hwords := ascii_of_mem_splitWords hascii
  have hbefore' : before.toLower.isAlphanum = true :=
    forall_ascii (fun c => c.isAlphanum = true → c.toLower.isAlphanum = true) (by decide +kernel)
      (hwords before (by simp [hsplit])) hbefore
  have hafter' : after.toLower.isAlpha = true :=
    forall_ascii (fun c => c.isUpper = true → c.toLower.isAlpha = true) (by decide +kernel)
      (hwords after (by simp [hsplit])) hafter
  rw [joinsWords, List.any_eq_true]
  refine ⟨before.toLower :: '_' :: after.toLower :: back.map Char.toLower, ?_, ?_⟩
  · rw [List.mem_tails, hsplit]
    exact ⟨front.map Char.toLower, by simp⟩
  · simp [hbefore', hafter']

/-! ## Case variants -/

/-- The texts that differ from a text in case at most. -/
def caseVariants (chars : List Char) : List (List Char) :=
  (chars.map fun c => [c, c.toUpper]).sections

/-- A text in ASCII differs from its lower-case form in case at most. -/
theorem mem_caseVariants {chars : List Char} (hascii : ∀ c ∈ chars, c.toNat < 0x80) :
    chars ∈ caseVariants (chars.map Char.toLower) := by
  rw [caseVariants, List.mem_sections, List.map_map, List.forall₂_map_right_iff,
    List.forall₂_same]
  intro c hc
  have hcase : c = c.toLower ∨ c = c.toLower.toUpper :=
    forall_ascii (fun c => c = c.toLower ∨ c = c.toLower.toUpper) (by decide +kernel) (hascii c hc)
  simpa using hcase

/-- A name that joins no words comes from a method name that differs from it in case at most. -/
theorem mem_caseVariants_of_snakeCase {name : String} (hascii : ∀ c ∈ name.toList, c.toNat < 0x80)
    (h : joinsWords (snakeCase name).toList = false) :
    splitWords name.toList = name.toList ∧ name.toList ∈ caseVariants (snakeCase name).toList := by
  rw [snakeCase, String.toList_ofList,
    lowerChars_of_ascii (ascii_of_mem_splitWords hascii)] at h ⊢
  have hself : splitWords name.toList = name.toList := by
    by_contra hne
    rw [joinsWords_of_splitWords_ne hascii hne] at h
    contradiction
  rw [hself]
  exact ⟨rfl, mem_caseVariants hascii⟩

/-! ## Identifiers -/

/-- The characters of identifiers. -/
def isNameChar (c : Char) : Bool :=
  c.isAlphanum || c == '_'

/-- Whether a name is an identifier of the schema language: a letter or an underscore, and then
letters, digits and underscores. -/
def isIdentifier (name : String) : Bool :=
  match name.toList with
  | [] => false
  | first :: rest => (first.isAlpha || first == '_') && rest.all isNameChar

/-- A name that has characters of identifiers only. -/
def HasNameChars (name : String) : Prop :=
  ∀ c ∈ name.toList, isNameChar c = true

/-- Identifiers are made of name characters. -/
theorem hasNameChars_of_isIdentifier {name : String} (h : isIdentifier name = true) :
    HasNameChars name := by
  unfold isIdentifier at h
  unfold HasNameChars
  cases hchars : name.toList with
  | nil => simp
  | cons first rest =>
      simp only [hchars, Bool.and_eq_true, Bool.or_eq_true, List.all_eq_true] at h
      refine List.forall_mem_cons.mpr ⟨?_, h.2⟩
      unfold isNameChar Char.isAlphanum
      simp only [Bool.or_eq_true]
      tauto

theorem HasNameChars.ascii {name : String} (h : HasNameChars name) :
    ∀ c ∈ name.toList, c.toNat < 0x80 := by
  intro c hc
  apply toNat_lt_of_isPlainChar
  have hname := h c hc
  unfold isNameChar at hname
  unfold isPlainChar
  simp only [Bool.or_eq_true] at hname ⊢
  tauto

theorem hasNameChars_ofList {chars : List Char} (h : chars.all isNameChar = true) :
    HasNameChars (String.ofList chars) := by
  rw [HasNameChars, String.toList_ofList]
  exact List.all_eq_true.mp h

theorem HasNameChars.append {first second : String} (hfirst : HasNameChars first)
    (hsecond : HasNameChars second) : HasNameChars (first ++ second) := by
  rw [HasNameChars, String.toList_append]
  exact List.forall_mem_append.mpr ⟨hfirst, hsecond⟩

/-- Snake case keeps to name characters. -/
theorem hasNameChars_snakeCase {name : String} (h : HasNameChars name) :
    HasNameChars (snakeCase name) := by
  rw [HasNameChars, snakeCase, String.toList_ofList,
    lowerChars_of_ascii (ascii_of_mem_splitWords h.ascii), List.forall_mem_map]
  intro c hc
  have hchar : isNameChar c = true := by
    rcases mem_splitWords hc with hmem | rfl
    · exact h c hmem
    · rfl
  exact forall_ascii (fun c => isNameChar c = true → isNameChar c.toLower = true)
    (by decide +kernel) (ascii_of_mem_splitWords h.ascii c hc) hchar

/-- The names of functions keep to name characters, also where a keyword is avoided. -/
theorem hasNameChars_methodName {name : String} (h : HasNameChars name) :
    HasNameChars (methodName name) := by
  unfold methodName avoidKeyword
  split
  · exact (hasNameChars_snakeCase h).append (hasNameChars_ofList rfl)
  · exact hasNameChars_snakeCase h

end StubGen.Identifier

namespace StubGen.Stub

open Identifier Text

/-! ## Trace wrappers -/

/-- The characters of the name of a trace wrapper. -/
theorem toList_traceAttribute (function : String) :
    (traceAttribute function).toList =
      '_' :: (function.toList.rdropWhile (· == '_') ++ ['_', 't', 'r', 'a', 'c', 'e']) := by
  rw [traceAttribute, String.toList_append, String.toList_append, toList_dropTrailing]
  simp

/-- The names of trace wrappers keep to name characters. -/
theorem hasNameChars_traceAttribute {function : String} (h : HasNameChars function) :
    HasNameChars (traceAttribute function) := by
  have hfunction : HasNameChars (dropTrailing (· == '_') function) := by
    intro c hc
    rw [toList_dropTrailing] at hc
    exact h c ((List.rdropWhile_prefix _ _).subset hc)
  exact ((hasNameChars_ofList rfl).append hfunction).append (hasNameChars_ofList rfl)

/-- A trace wrapper is never named as its own function. -/
theorem traceAttribute_ne_self (function : String) : traceAttribute function ≠ function := by
  intro h
  have hchars := toList_traceAttribute function
  rw [h] at hchars
  -- A function of that name ends in a letter, so its wrapper has the whole name in the middle.
  generalize hkept : function.toList.rdropWhile (· == '_') = kept at hchars
  have hwhole : function.toList.rdropWhile (· == '_') = function.toList := by
    rw [hchars, List.rdropWhile_eq_self_iff]
    simp
  rw [hwhole, hchars] at hkept
  have hlength := congrArg List.length hkept
  simp only [List.length_cons, List.length_append, List.length_nil] at hlength
  omega

end StubGen.Stub
