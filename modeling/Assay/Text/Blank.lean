/-!
White space of every script, and its removal from the ends of a text.
-/

namespace Assay.Text

/-- White space: the separators of general category Zs and the controls that break lines,
paragraphs or segments. -/
def isBlank (c : Char)
    : Bool :=
  let n := c.toNat
  (9 ≤ n && n ≤ 13) || (28 ≤ n && n ≤ 32) || n == 0x85 || n == 0xA0 || n == 0x1680
    || (0x2000 ≤ n && n ≤ 0x200A) || n == 0x2028 || n == 0x2029 || n == 0x202F
    || n == 0x205F || n == 0x3000

/-- A text without the blank characters at its two ends. -/
def trimBlank (cs : List Char)
    : List Char :=
  ((cs.dropWhile isBlank).reverse.dropWhile isBlank).reverse

end Assay.Text
