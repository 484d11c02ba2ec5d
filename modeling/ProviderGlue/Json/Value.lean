/-!
# JSON values and their text

Values whose numbers are 64-bit words, the members of an object in a list, and `pretty`, the
indented text of a value.
-/

namespace ProviderGlue.Json

/-- A JSON value. -/
inductive Value where
  | null
  | flag (value : Bool)
  | word (value : Int64)
  | text (value : String)
  | list (items : List Value)
  | object (members : List (String × Value))
deriving Inhabited

namespace Value

/-! ## Access -/

/-- The value of a member of an object. -/
def get? (key : String) : Value → Option Value
  | object members => members.lookup key
  | _ => none

/-- The items of a list. -/
def items : Value → List Value
  | list items => items
  | _ => []

/-- The items of the list under a key. -/
def itemsAt (key : String) (v : Value) : List Value :=
  ((v.get? key).map items).getD []

/-- The text under a key, if there is one. -/
def textAt? (key : String) (v : Value) : Option String :=
  match v.get? key with
  | some (text s) => some s
  | _ => none

/-- The text under a key, or the empty text. -/
def textAt (key : String) (v : Value) : String := (v.textAt? key).getD ""

/-- The truth value under a key, or `false`. -/
def flagAt (key : String) (v : Value) : Bool :=
  match v.get? key with
  | some (flag b) => b
  | _ => false

/-- The word under a key, or zero. -/
def wordAt (key : String) (v : Value) : Int64 :=
  match v.get? key with
  | some (word i) => i
  | _ => 0

/-- The object under a key, if there is one. -/
def objectAt? (key : String) (v : Value) : Option Value :=
  match v.get? key with
  | some (object members) => some (object members)
  | _ => none

private theorem sizeOf_lookup {key : String} {v : Value} {members : List (String × Value)}
    (h : members.lookup key = some v) : sizeOf v < sizeOf members := by
  induction members with
  | nil => simp at h
  | cons m ms ih =>
    obtain ⟨k, w⟩ := m
    rw [List.lookup_cons] at h
    split at h
    · obtain rfl := Option.some.inj h
      simp
      omega
    · have := ih h
      simp
      omega

theorem sizeOf_get? {key : String} {v w : Value} (h : v.get? key = some w) :
    sizeOf w < sizeOf v := by
  cases v with
  | object members =>
    have := sizeOf_lookup h
    simp
    omega
  | _ => simp [get?] at h

theorem sizeOf_items {v w : Value} (h : w ∈ v.items) : sizeOf w < sizeOf v := by
  cases v with
  | list vs =>
    have := List.sizeOf_lt_of_mem (show w ∈ vs from h)
    simp
    omega
  | _ => simp [items] at h

/-- What stands in a list under a key is smaller than the object. -/
theorem sizeOf_itemsAt {key : String} {v w : Value} (h : w ∈ v.itemsAt key) :
    sizeOf w < sizeOf v := by
  unfold itemsAt at h
  cases hget : v.get? key with
  | none => simp [hget] at h
  | some u =>
    have := sizeOf_get? hget
    have := sizeOf_items (show w ∈ u.items by simpa [hget] using h)
    omega

end Value

/-! ## Text -/

/-- A digit of a hexadecimal number. -/
def hexDigit (n : Nat) : Char :=
  if n < 10 then Char.ofNat ('0'.toNat + n) else Char.ofNat ('a'.toNat + (n - 10))

/-- How a character stands in a string. -/
def escapeChar (c : Char) : List Char :=
  if c = '"' then ['\\', '"']
  else if c = '\\' then ['\\', '\\']
  else if c.toNat = 0x08 then ['\\', 'b']
  else if c.toNat = 0x0C then ['\\', 'f']
  else if c = '\n' then ['\\', 'n']
  else if c = '\r' then ['\\', 'r']
  else if c = '\t' then ['\\', 't']
  else if c.toNat < 0x20 then
    ['\\', 'u', '0', '0', hexDigit (c.toNat / 16), hexDigit (c.toNat % 16)]
  else [c]

/-- A string with its quotes. -/
def stringText (s : String) : List Char :=
  '"' :: s.toList.flatMap escapeChar ++ ['"']

/-- The digits of an integer, after a minus sign if it is negative. -/
def wordText (i : Int64) : List Char :=
  match i.toInt with
  | .ofNat n => Nat.toDigits 10 n
  | .negSucc n => '-' :: Nat.toDigits 10 (n + 1)

/-- A new line, indented by two blanks for each level. -/
def newLine (level : Nat) : List Char := '\n' :: List.replicate (2 * level) ' '

namespace Value

mutual

/-- The text of a value that stands `level` levels deep. -/
def pretty (level : Nat) : Value → List Char
  | null => "null".toList
  | flag b => if b then "true".toList else "false".toList
  | word i => wordText i
  | text s => stringText s
  | list [] => ['[', ']']
  | list (v :: vs) =>
    '[' :: newLine (level + 1) ++ pretty (level + 1) v ++ prettyItems (level + 1) vs ++
      newLine level ++ [']']
  | object [] => ['\x7b', '\x7d']
  | object ((key, v) :: ms) =>
    '\x7b' :: newLine (level + 1) ++ stringText key ++ [':', ' '] ++ pretty (level + 1) v ++
      prettyMembers (level + 1) ms ++ newLine level ++ ['\x7d']

/-- Further items of a list. -/
def prettyItems (level : Nat) : List Value → List Char
  | [] => []
  | v :: vs => ',' :: newLine level ++ pretty level v ++ prettyItems level vs

/-- Further members of an object. -/
def prettyMembers (level : Nat) : List (String × Value) → List Char
  | [] => []
  | (key, v) :: ms =>
    ',' :: newLine level ++ stringText key ++ [':', ' '] ++ pretty level v ++
      prettyMembers level ms

end

end Value

end ProviderGlue.Json
