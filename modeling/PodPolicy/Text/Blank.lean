import PodPolicy.Text.CodePoints

/-!
# Blank characters

Two sets are in use. White space is Unicode's property White_Space. Blank
characters are white space and the four information separators U+001C to
U+001F, which count as boundaries of paragraphs and segments.
-/

namespace PodPolicy.Text

def whiteRanges : CodePoints :=
  [(0x9, 0xd), (0x20, 0x20), (0x85, 0x85), (0xa0, 0xa0), (0x1680, 0x1680), (0x2000, 0x200a),
   (0x2028, 0x2029), (0x202f, 0x202f), (0x205f, 0x205f), (0x3000, 0x3000)]

def separatorRanges : CodePoints :=
  [(0x1c, 0x1f)]

def isWhite (c : Char) : Bool :=
  whiteRanges.contains c

def isBlank (c : Char) : Bool :=
  isWhite c || separatorRanges.contains c

/-- Drops the characters of a class from both ends. -/
def trimBy (drop : Char → Bool) (cs : List Char) : List Char :=
  ((cs.dropWhile drop).reverse.dropWhile drop).reverse

end PodPolicy.Text
