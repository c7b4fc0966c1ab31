import OpenIdConnect.Text.Pieces

/-!
# Blank characters

The characters of the Unicode property White_Space, and the words between them.
-/

namespace OpenIdConnect.Text

/-- Is the character white space? -/
def isBlank (c : Char) : Bool :=
  let n := c.toNat
  (9 ≤ n && n ≤ 13) || n == 0x20 || n == 0x85 || n == 0xA0 || n == 0x1680
    || (0x2000 ≤ n && n ≤ 0x200A) || n == 0x2028 || n == 0x2029 || n == 0x202F
    || n == 0x205F || n == 0x3000

/-- The runs of characters between blanks; none is empty. -/
def words (s : String) : List String :=
  ((pieces isBlank s.toList).filter fun piece => !piece.isEmpty).map String.ofList

/-- Texts with one separator between each two. -/
def joined (separator : String) : List String → String
  | [] => ""
  | [s] => s
  | s :: t :: rest => s ++ separator ++ joined separator (t :: rest)

end OpenIdConnect.Text
