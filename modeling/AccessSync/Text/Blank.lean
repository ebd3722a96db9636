/-!
# Blanks

The characters that separate words, and trimming them from the ends of a text.
-/

namespace AccessSync.Text

/-- A blank: the ASCII blanks and separators, the next-line character and the spaces of the
further blocks. -/
def isBlank (c : Char) : Bool :=
  let n := c.toNat
  (9 ≤ n && n ≤ 13) || (28 ≤ n && n ≤ 32) || n == 133 || n == 160 || n == 5760 ||
    (8192 ≤ n && n ≤ 8202) || n == 8232 || n == 8233 || n == 8239 || n == 8287 || n == 12288

/-- A blank that may surround a number: any but the four ASCII separators. -/
def isNumberBlank (c : Char) : Bool :=
  isBlank c && !(28 ≤ c.toNat && c.toNat ≤ 31)

def trimChars (blank : Char → Bool) (cs : List Char) : List Char :=
  ((cs.dropWhile blank).reverse.dropWhile blank).reverse

def trim (s : String) : String :=
  String.ofList (trimChars isBlank s.toList)

end AccessSync.Text
