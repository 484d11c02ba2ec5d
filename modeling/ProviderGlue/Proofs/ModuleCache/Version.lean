import ProviderGlue.Proofs.ModuleCache
import ProviderGlue.Proofs.Text.Cut
import ProviderGlue.Proofs.Text.Numeral

/-!
# Semantic versions

A semantic version has three numbers, and perhaps a pre-release and build metadata.  Versions are put
in order by their numbers, and a pre-release stands before its release.  The numbers by which
directories are compared begin with the three numbers of the version; what they go on with need not
follow the order of pre-releases.

## Key results

- `versionKey_text`: the numbers at the start of a version
- `core_le_of_versionKey_le`: they respect the three numbers of versions
- `versionKey_text_of_release`: a release has no further numbers
-/

namespace ProviderGlue.ModuleCache

open Text

/-! ## Versions -/

/-- Whether a character may stand in an identifier: a letter, a digit or a hyphen. -/
def isIdentifierChar (c : Char) : Bool := c.isAlphanum || c == '-'

/-- An identifier of a pre-release. -/
inductive Identifier where
  /-- A number. -/
  | number (n : Nat)
  /-- An identifier that is no number. -/
  | word (chars : List Char)

namespace Identifier

/-- How an identifier is written. -/
def text : Identifier → List Char
  | number n => Nat.toDigits 10 n
  | word chars => chars

/-- A word is not made of digits only. -/
def IsValid : Identifier → Prop
  | number _ => True
  | word chars => (∀ c ∈ chars, isIdentifierChar c = true) ∧ ∃ c ∈ chars, c.isDigit = false

/-- The order of identifiers: numbers by their values, then words by their characters. -/
inductive Precedes : Identifier → Identifier → Prop
  | numbers {m n : Nat} (h : m < n) : Precedes (number m) (number n)
  | numberWord (n : Nat) (chars : List Char) : Precedes (number n) (word chars)
  | words {chars chars' : List Char} (h : chars < chars') : Precedes (word chars) (word chars')

theorem Precedes.irrefl (i : Identifier) : ¬ i.Precedes i := by
  intro h
  cases h with
  | numbers h => exact Nat.lt_irrefl _ h
  | words h => exact List.lt_irrefl _ h

theorem isIdentifierChar_of_mem {i : Identifier} (h : i.IsValid) {c : Char} (hc : c ∈ i.text) :
    isIdentifierChar c = true := by
  cases i with
  | number n =>
    have hdigit := Nat.isDigit_of_mem_toDigits (by decide) (by decide) hc
    rw [isIdentifierChar, Char.isAlphanum, hdigit, Bool.or_true, Bool.true_or]
  | word chars => exact h.1 c hc

end Identifier

/-- A semantic version whose numbers are words of 64 bits. -/
structure Version where
  /-- The number of the major version. -/
  major : Nat
  /-- The number of the minor version. -/
  minor : Nat
  /-- The number of the patch. -/
  patch : Nat
  /-- The identifiers of a pre-release; a release has none. -/
  pre : List Identifier
  /-- The identifiers of the build metadata. -/
  build : List (List Char)
  /-- The numbers are words. -/
  bounded : ∀ n ∈ [major, minor, patch], n < 2 ^ 64
  /-- The pre-release has valid identifiers. -/
  validPre : ∀ i ∈ pre, i.IsValid
  /-- The build metadata has valid identifiers. -/
  validBuild : ∀ chars ∈ build, chars ≠ [] ∧ ∀ c ∈ chars, isIdentifierChar c = true

/-- Identifiers behind a mark, with dots between them. -/
def marked (mark : Char) (identifiers : List (List Char)) : List Char :=
  if identifiers = [] then [] else mark :: ['.'].intercalate identifiers

theorem mem_marked {mark c : Char} {identifiers : List (List Char)} (h : c ∈ marked mark identifiers) :
    c = mark ∨ c = '.' ∨ ∃ chars ∈ identifiers, c ∈ chars := by
  rw [marked] at h
  split at h
  · exact absurd h List.not_mem_nil
  · rcases List.mem_cons.1 h with h | h
    · exact .inl h
    · exact .inr (mem_intercalate h)

namespace Version

/-- The three numbers of a version. -/
def core (v : Version) : List Nat := [v.major, v.minor, v.patch]

/-- What is written behind the three numbers. -/
def ending (v : Version) : List Char :=
  marked '-' (v.pre.map Identifier.text) ++ marked '+' v.build

/-- How a version is written. -/
def text (v : Version) : List Char :=
  'v' :: ['.'].intercalate (v.core.map (Nat.toDigits 10)) ++ v.ending

theorem text_eq (v : Version) :
    v.text = 'v' :: (Nat.toDigits 10 v.major ++ '.' :: (Nat.toDigits 10 v.minor ++
      '.' :: (Nat.toDigits 10 v.patch ++ v.ending))) := by
  simp [text, core, List.intercalate_cons_cons]

/-- The order of pre-releases: one stands before its release, and the others are compared by the first
identifiers that differ. -/
def PrePrecedes : List Identifier → List Identifier → Prop
  | [], _ => False
  | _ :: _, [] => True
  | i :: is, j :: js => List.Lex Identifier.Precedes (i :: is) (j :: js)

theorem PrePrecedes.irrefl (pre : List Identifier) : ¬ PrePrecedes pre pre := by
  cases pre with
  | nil => exact id
  | cons i is => exact List.lex_irrefl Identifier.Precedes.irrefl (i :: is)

/-- The order of versions. -/
def Precedes (v w : Version) : Prop :=
  v.core < w.core ∨ v.core = w.core ∧ PrePrecedes v.pre w.pre

theorem isVersion_text (v : Version) : ['v'] <+: v.text := ⟨_, rfl⟩

/-- A version is written without slashes. -/
theorem slash_not_mem_text (v : Version) : '/' ∉ v.text := by
  have hdigits : ∀ n : Nat, '/' ∉ Nat.toDigits 10 n := fun n h =>
    absurd (Nat.isDigit_of_mem_toDigits (by decide) (by decide) h) (by decide)
  have hpre : '/' ∉ marked '-' (v.pre.map Identifier.text) := by
    intro h
    rcases mem_marked h with h | h | ⟨chars, hchars, h⟩
    · contradiction
    · contradiction
    · obtain ⟨i, hi, rfl⟩ := List.mem_map.1 hchars
      exact absurd (Identifier.isIdentifierChar_of_mem (v.validPre i hi) h) (by decide)
  have hbuild : '/' ∉ marked '+' v.build := by
    intro h
    rcases mem_marked h with h | h | ⟨chars, hchars, h⟩
    · contradiction
    · contradiction
    · exact absurd ((v.validBuild chars hchars).2 _ h) (by decide)
  simp [text_eq, ending, hdigits, hpre, hbuild]

end Version

/-! ## Numbers -/

/-- What separates the pieces of a version. -/
def isSeparator (c : Char) : Bool := c = '.' ∨ c = '-' ∨ c = '+'

/-- The numbers that the first pieces are. -/
def leadingNumbers (pieces : List (List Char)) : List Nat :=
  ((pieces.map (readBelow? (2 ^ 64))).takeWhile Option.isSome).filterMap id

theorem versionKey_eq (version : List Char) :
    versionKey version =
      leadingNumbers (splitWhere isSeparator (version.dropWhile (· = 'v'))) := rfl

theorem leadingNumbers_toDigits {n : Nat} (h : n < 2 ^ 64) (pieces : List (List Char)) :
    leadingNumbers (Nat.toDigits 10 n :: pieces) = n :: leadingNumbers pieces := by
  rw [leadingNumbers, List.map_cons, readBelow?_toDigits h]
  rfl

theorem leadingNumbers_of_none {piece : List Char} (h : readBelow? (2 ^ 64) piece = none)
    (pieces : List (List Char)) : leadingNumbers (piece :: pieces) = [] := by
  rw [leadingNumbers, List.map_cons, h]
  rfl

/-- A number stands alone between separators. -/
theorem splitWhere_toDigits (n : Nat) :
    splitWhere isSeparator (Nat.toDigits 10 n) = [Nat.toDigits 10 n] := by
  refine splitWhere_eq_self fun c hc => ?_
  have hdigit := Nat.isDigit_of_mem_toDigits (by decide) (by decide) hc
  rw [isSeparator, decide_eq_false_iff_not]
  rintro (rfl | rfl | rfl) <;> exact absurd hdigit (by decide)

theorem leadingNumbers_splitWhere {n : Nat} (h : n < 2 ^ 64) {c : Char} (hc : isSeparator c = true)
    (rest : List Char) :
    leadingNumbers (splitWhere isSeparator (Nat.toDigits 10 n ++ c :: rest)) =
      n :: leadingNumbers (splitWhere isSeparator rest) := by
  rw [splitWhere_append hc, splitWhere_toDigits, List.singleton_append, leadingNumbers_toDigits h]

namespace Version

/-- The numbers that the key of a version has behind the three numbers. -/
def furtherNumbers (v : Version) : List Nat :=
  match v.ending with
  | [] => []
  | _ :: chars => leadingNumbers (splitWhere isSeparator chars)

/-- What stands behind the three numbers starts with a separator. -/
theorem isSeparator_of_ending {v : Version} {c : Char} {chars : List Char}
    (h : v.ending = c :: chars) : isSeparator c = true := by
  rw [ending, marked, marked] at h
  split at h
  · split at h
    · contradiction
    · rw [← (List.cons.inj h).1]
      rfl
  · rw [← (List.cons.inj h).1]
    rfl

/-- The key of a version begins with its three numbers. -/
theorem versionKey_text (v : Version) : versionKey v.text = v.core ++ v.furtherNumbers := by
  obtain ⟨hmajor, hminor, hpatch⟩ :
      v.major < 2 ^ 64 ∧ v.minor < 2 ^ 64 ∧ v.patch < 2 ^ 64 := by simpa using v.bounded
  have hdrop : v.text.dropWhile (· = 'v') = v.text.tail := by
    rw [text_eq, List.dropWhile_cons, if_pos (decide_eq_true rfl), List.tail_cons]
    refine dropWhile_eq_self fun c hc => decide_eq_false ?_
    rintro rfl
    have hmem : 'v' ∈ Nat.toDigits 10 v.major := by
      rw [List.head?_append_of_ne_nil _ Nat.toDigits_ne_nil] at hc
      exact List.mem_of_head? hc
    exact absurd (Nat.isDigit_of_mem_toDigits (by decide) (by decide) hmem) (by decide)
  have hlast : leadingNumbers (splitWhere isSeparator (Nat.toDigits 10 v.patch ++ v.ending)) =
      v.patch :: v.furtherNumbers := by
    cases hending : v.ending with
    | nil =>
      rw [List.append_nil, splitWhere_toDigits, leadingNumbers_toDigits hpatch, furtherNumbers,
        hending]
      rfl
    | cons c chars =>
      rw [leadingNumbers_splitWhere hpatch (isSeparator_of_ending hending), furtherNumbers, hending]
  rw [versionKey_eq, hdrop, text_eq, List.tail_cons, leadingNumbers_splitWhere hmajor (by decide),
    leadingNumbers_splitWhere hminor (by decide), hlast, core]
  rfl

/-- The greater key belongs to the version with the greater numbers, if these are not the same. -/
theorem core_le_of_versionKey_le {v w : Version} (h : versionKey v.text ≤ versionKey w.text) :
    v.core ≤ w.core := by
  have hlength : w.core.length = v.core.length := rfl
  refine not_lt.1 fun hlt => not_lt.2 h ?_
  rw [versionKey_text, versionKey_text]
  exact append_lt_append hlength hlt _ _

/-- The build metadata does not begin with a digit. -/
def PlainBuild (v : Version) : Prop :=
  ∀ c ∈ v.build.flatten.head?, c.isDigit = false

/-- A release has no further numbers, unless its build metadata begin with some. -/
theorem furtherNumbers_of_release {v : Version} (hpre : v.pre = []) (hbuild : v.PlainBuild) :
    v.furtherNumbers = [] := by
  cases hv : v.build with
  | nil => rw [furtherNumbers, ending, hpre, hv]; rfl
  | cons first more =>
    obtain ⟨hne, hchars⟩ := v.validBuild first (hv ▸ List.mem_cons_self)
    obtain ⟨c, chars, rfl⟩ := List.exists_cons_of_ne_nil hne
    have hdigit : c.isDigit = false := hbuild c (by rw [hv]; rfl)
    have hplus : c ≠ '+' := by
      rintro rfl
      exact absurd (hchars '+' List.mem_cons_self) (by decide)
    obtain ⟨rest, hrest⟩ : ∃ rest, ['.'].intercalate ((c :: chars) :: more) = c :: rest := by
      cases more <;> exact ⟨_, rfl⟩
    have hending : v.ending = '+' :: c :: rest := by
      rw [ending, hpre, hv, marked, marked, if_neg (List.cons_ne_nil _ _), hrest]
      rfl
    obtain ⟨piece, pieces, heq⟩ := List.exists_cons_of_ne_nil (splitWhere_ne_nil isSeparator rest)
    rw [furtherNumbers, hending]
    show leadingNumbers (splitWhere isSeparator (c :: rest)) = []
    rw [splitWhere, heq]
    split
    · exact leadingNumbers_of_none rfl _
    · exact leadingNumbers_of_none (readBelow?_eq_none piece hplus hdigit) _

end Version

end ProviderGlue.ModuleCache
