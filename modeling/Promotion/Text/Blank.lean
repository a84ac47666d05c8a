/-!
# White space

The characters with the Unicode property White_Space, and texts freed of them at either end. The
mark of the byte order is none of them; it can only stand at the start of a text.
-/

namespace Promotion.Text

/-- The property White_Space: five controls and the space, two more controls, and the spaces and
separators of the general punctuation block and of three scripts. -/
def isBlank (c : Char) : Bool :=
  let n := c.toNat
  (9 ≤ n && n ≤ 13) || n == 0x20 || n == 0x85 || n == 0xA0 || n == 0x1680
    || (0x2000 ≤ n && n ≤ 0x200A) || n == 0x2028 || n == 0x2029 || n == 0x202F
    || n == 0x205F || n == 0x3000

/-- A list of characters without the blanks it ends with. -/
def trimmedEnd (cs : List Char) : List Char :=
  (cs.reverse.dropWhile isBlank).reverse

/-- A list of characters without the blanks it starts and ends with. -/
def trimmed (cs : List Char) : List Char :=
  trimmedEnd (cs.dropWhile isBlank)

def trim (s : String) : String :=
  String.ofList (trimmed s.toList)

/-- Nothing but blanks, or nothing at all. -/
def isBlankText (s : String) : Bool :=
  s.toList.all isBlank

/-- A text without the mark of the byte order that it may start with. -/
def withoutMark : List Char → List Char
  | '\uFEFF' :: cs => cs
  | cs => cs

end Promotion.Text
