import ProviderGlue.Text.Basic

/-!
# Types as they are written

Type expressions are kept as the text of their source, which may span lines and carry pointers,
slices, arrays, maps and package names.  The functions here read that text.  All of them are total:
what has no known form is stripped as far as possible and returned as it stands.

* `normalize`     one blank between words, none at the ends
* `baseName`      the declared name behind pointers, slices, arrays and maps, without its package
* `elementType`   the element of a slice or pointer, package included
* `importAlias?`  the first package of the form `importN` in the text
-/

namespace ProviderGlue.Go.TypeText

open Text Unicode

/-- The words of the text, with one blank between them. -/
def normalize (text : List Char) : List Char :=
  [' '].intercalate (words text)

/-! ## The declared name -/

/-- What follows the bracket that closes `depth` open ones. -/
def afterClosing? (depth : Nat) : (text : List Char) → Option (List Char)
  | [] => none
  | '[' :: cs => afterClosing? (depth + 1) cs
  | ']' :: cs => if depth ≤ 1 then some cs else afterClosing? (depth - 1) cs
  | _ :: cs => afterClosing? depth cs

/-- What follows the key of a map type. -/
def afterMapKey? (text : List Char) : Option (List Char) :=
  (afterPrefix? "map[".toList text).bind (afterClosing? 1)

/-- What follows the length of an array type, if the length is a decimal number. -/
def afterArrayLength? : (text : List Char) → Option (List Char)
  | '[' :: cs =>
    match cs.takeWhile Char.isDigit, cs.dropWhile Char.isDigit with
    | _ :: _, ']' :: rest => some rest
    | _, _ => none
  | _ => none

/-- What follows the brackets of a slice, map or array type. -/
def afterBrackets? (text : List Char) : Option (List Char) :=
  (afterPrefix? ['[', ']'] text).or ((afterMapKey? text).or (afterArrayLength? text))

theorem length_afterClosing? {depth : Nat} {text rest : List Char}
    (h : afterClosing? depth text = some rest) : rest.length < text.length := by
  fun_induction afterClosing? depth text <;> simp_all <;> omega

theorem length_afterArrayLength? {text rest : List Char}
    (h : afterArrayLength? text = some rest) : rest.length < text.length := by
  unfold afterArrayLength? at h
  split at h
  · next cs =>
    split at h
    · next htake hdrop =>
      obtain rfl := Option.some.inj h
      have hsplit := List.takeWhile_append_dropWhile (p := Char.isDigit) (l := cs)
      rw [htake, hdrop] at hsplit
      simp [← hsplit]
      omega
    · simp at h
  · simp at h

theorem length_afterBrackets? {text rest : List Char} (h : afterBrackets? text = some rest) :
    rest.length < text.length := by
  simp only [afterBrackets?, Option.or_eq_some_iff] at h
  rcases h with h | ⟨_, h | ⟨_, h⟩⟩
  · have := congrArg List.length (afterPrefix?_eq_some_iff.1 h)
    simp only [List.length_append, List.length_cons] at this
    omega
  · obtain ⟨mid, hmid, h⟩ := Option.bind_eq_some_iff.1 h
    have := length_afterClosing? h
    have := congrArg List.length (afterPrefix?_eq_some_iff.1 hmid)
    simp only [List.length_append] at this
    omega
  · exact length_afterArrayLength? h

/-- The text without the stars and blanks at its start. -/
def stripStars (text : List Char) : List Char :=
  trimStart (text.dropWhile (· = '*'))

theorem length_stripStars_le (text : List Char) : (stripStars text).length ≤ text.length :=
  Nat.le_trans (List.dropWhile_sublist _).length_le (List.dropWhile_sublist _).length_le

/-- The text behind all stars, brackets and blanks at its start. -/
def stripWrappers (text : List Char) : List Char :=
  let bare := stripStars text
  match _h : afterBrackets? bare with
  | some rest => stripWrappers (trimStart rest)
  | none => if bare.length < text.length then stripWrappers bare else bare
termination_by text.length
decreasing_by
  · have := length_afterBrackets? _h
    have : bare.length ≤ text.length := length_stripStars_le text
    have := (List.dropWhile_sublist (l := rest) isBlank).length_le
    simp only [trimStart]
    omega
  · assumption

/-- The part of the text after its last dot. -/
def afterLastDot (text : List Char) : List Char :=
  ((splitLast? '.' text).map (·.2)).getD text

/-- The declared name that a type expression leads to: `Widget` for `map[string][]*import1.Widget`. -/
def baseName (text : List Char) : List Char :=
  trim (afterLastDot (stripWrappers (trim text)))

/-! ## Packages -/

/-- The alias `importN` that starts the text, if no word character follows it. -/
def aliasAtStart? (text : List Char) : Option (List Char) :=
  (afterPrefix? "import".toList text).bind fun rest =>
    match rest.takeWhile isDecimalDigit, rest.dropWhile isDecimalDigit with
    | [], _ => none
    | digits, [] => some ("import".toList ++ digits)
    | digits, c :: _ => if isWordChar c then none else some ("import".toList ++ digits)

/-- The first alias `importN` of the text that stands as a word of its own; `afterWord` says whether
a word character precedes the text. -/
def findAlias? (afterWord : Bool) : (text : List Char) → Option (List Char)
  | [] => none
  | c :: cs =>
    (if afterWord then none else aliasAtStart? (c :: cs)).or (findAlias? (isWordChar c) cs)

/-- The first package alias of the form `importN` in a type expression. -/
def importAlias? (text : List Char) : Option (List Char) :=
  findAlias? false text

/-- Whether the whole text is an alias of the form `importN`. -/
def isImportAlias (text : List Char) : Bool :=
  match afterPrefix? "import".toList text with
  | none => false
  | some digits => ! digits.isEmpty && digits.all isDecimalDigit

/-- The names before the dots of the text: the packages that it mentions.  `run` is the word read
so far, reversed. -/
def qualifiersFrom (run : List Char) : (text : List Char) → List (List Char)
  | [] => []
  | c :: cs =>
    if c.isAlphanum ∨ c = '_' then qualifiersFrom (c :: run) cs
    else if c = '.' then
      match run.reverse.dropWhile Char.isDigit with
      | [] => qualifiersFrom [] cs
      | name => name :: qualifiersFrom [] cs
    else qualifiersFrom [] cs

/-- The packages that a type expression mentions, in order. -/
def qualifiers (text : List Char) : List (List Char) :=
  qualifiersFrom [] text

/-! ## Form -/

/-- The type without the blanks around it and the stars before it. -/
def unpointed (text : List Char) : List Char :=
  (trim text).dropWhile (· = '*')

/-- Whether the type is a slice, a pointer before it aside. -/
def isSlice (text : List Char) : Bool :=
  ['[', ']'].isPrefixOf (unpointed text)

/-- What a slice holds, a pointer before it aside. -/
def sliceElement? (text : List Char) : Option (List Char) :=
  (afterPrefix? ['[', ']'] (unpointed text)).map trimStart

/-- Whether the type is a map, a pointer before it aside. -/
def isMap (text : List Char) : Bool :=
  "map[".toList.isPrefixOf (unpointed text)

/-- Whether the type is a pointer. -/
def isPointer (text : List Char) : Bool :=
  ['*'].isPrefixOf (trim text)

/-- The element of a pointer or slice, or of a pointer to either, package included. -/
def elementType (text : List Char) : List Char :=
  let bare := unpointed text
  trim (((afterPrefix? ['[', ']'] bare).getD bare).dropWhile (· = '*'))

/-- Whether the type mentions `time.Time`. -/
def isTime (text : List Char) : Bool :=
  occursIn "time.Time".toList text

end ProviderGlue.Go.TypeText

namespace ProviderGlue.Go

/-- The declared name that a type leads to. -/
def baseName (type : String) : String :=
  String.ofList (TypeText.baseName type.toList)

/-- The first package alias of the form `importN` in a type. -/
def importAlias? (type : String) : Option String :=
  (TypeText.importAlias? type.toList).map String.ofList

end ProviderGlue.Go
