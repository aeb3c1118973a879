/-!
# Blank characters

The characters that separate words in any script, and the removal of such characters from the
two ends of a text.

## Main definitions

* `isBlank` — the characters with the Unicode property `White_Space`;
* `trimChars` — the characters of a text without the blank ones at its ends.
-/

namespace AddressTrace.Text

/-- **The white space of every script.**  The twenty-five code points with the Unicode property
`White_Space`; zero-width characters and the byte order mark are not among them. -/
def isBlank (c : Char) : Bool :=
  let n := c.toNat
  (9 ≤ n && n ≤ 13) || n == 0x20 || n == 0x85 || n == 0xA0 || n == 0x1680
    || (0x2000 ≤ n && n ≤ 0x200A) || n == 0x2028 || n == 0x2029 || n == 0x202F
    || n == 0x205F || n == 0x3000

/-- Every white-space character of ASCII is blank. -/
theorem isBlank_of_isWhitespace {c : Char} (h : c.isWhitespace = true) : isBlank c = true := by
  simp only [Char.isWhitespace, Bool.or_eq_true, decide_eq_true_eq] at h
  rcases h with ((rfl | rfl) | rfl) | rfl <;> decide

/-- The characters of a text without the blank ones at its end. -/
def trimEnd (cs : List Char) : List Char :=
  (cs.reverse.dropWhile isBlank).reverse

/-- **A text without its margins.**  Blank characters are removed from both ends and nowhere
else. -/
def trimChars (cs : List Char) : List Char :=
  trimEnd (cs.dropWhile isBlank)

end AddressTrace.Text
