/-!
# Sets of code points

A Unicode property is stored as a list of runs.  A run `(first, last, step)` stands for the code
points `first, first + step, …, last`; step `2` covers the blocks where upper and lower case
letters alternate.  The property tables of this folder list code points from `0x80` on only: each
property gives its ASCII part as a test of its own, so that statements about ASCII text never open
a table.
-/

namespace ProviderGlue.Text.Unicode

/-- A set of code points, as runs `(first, last, step)`. -/
abbrev CodePoints := List (Nat × Nat × Nat)

/-- Whether some run of the set holds `code`. -/
def CodePoints.has (runs : CodePoints) (code : Nat) : Bool :=
  runs.any fun (first, last, step) => first ≤ code && code ≤ last && (code - first) % step == 0

/-- A property with the ASCII part `ascii` and the further code points `others`. -/
def inProperty (ascii : Char → Bool) (others : CodePoints) (c : Char) : Bool :=
  if c.toNat < 0x80 then ascii c else others.has c.toNat

theorem inProperty_of_ascii {ascii : Char → Bool} {others : CodePoints} {c : Char}
    (h : c.toNat < 0x80) : inProperty ascii others c = ascii c := by
  simp [inProperty, h]

end ProviderGlue.Text.Unicode
