namespace Orchestration.Text

-- `White_Space` of Unicode, which surrounds numerals. Names that people type are surrounded by four more, the
-- information separators. A zero-width space is in neither set.
def isSpace (c : Char) : Bool :=
  let n := c.toNat
  (9 ≤ n && n ≤ 13) || n == 0x20 || n == 0x85 || n == 0xA0 || n == 0x1680 ||
    (0x2000 ≤ n && n ≤ 0x200A) || n == 0x2028 || n == 0x2029 || n == 0x202F ||
    n == 0x205F || n == 0x3000

def isBlank (c : Char) : Bool :=
  isSpace c || (0x1C ≤ c.toNat && c.toNat ≤ 0x1F)

def trimBy (set : Char → Bool) (s : List Char) : List Char :=
  ((s.dropWhile set).reverse.dropWhile set).reverse

-- The typed text without its blank ends. Blanks inside stay.
def strip (s : String) : String :=
  String.ofList (trimBy isBlank s.toList)

-- True exactly of texts made of blanks only, the empty text included.
def isBlankText (s : String) : Bool :=
  s.toList.all isBlank

end Orchestration.Text
