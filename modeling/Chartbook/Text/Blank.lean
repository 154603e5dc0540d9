/-!
White space by the Unicode property `White_Space`, and trimming.
-/

namespace Chartbook.Text

/-- The characters with the Unicode property `White_Space`. Zero-width space, the byte order mark
and the ASCII separators U+001C to U+001F do not have it. -/
def isBlank (character : Char) : Bool :=
  let code := character.toNat
  (9 ≤ code && code ≤ 13) || code == 0x20 || code == 0x85 || code == 0xA0 || code == 0x1680
    || (0x2000 ≤ code && code ≤ 0x200A) || code == 0x2028 || code == 0x2029 || code == 0x202F
    || code == 0x205F || code == 0x3000

def trimStart (text : List Char) : List Char :=
  text.dropWhile isBlank

def trimEnd (text : List Char) : List Char :=
  (text.reverse.dropWhile isBlank).reverse

def trim (text : List Char) : List Char :=
  trimEnd (trimStart text)

def trimmed (text : String) : String :=
  String.ofList (trim text.toList)

def blank (text : String) : Bool :=
  text.toList.all isBlank

def nonBlank? (text : String) : Option String :=
  if blank text then none else some (trimmed text)

end Chartbook.Text
