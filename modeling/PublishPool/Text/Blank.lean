/-!
Blank characters and trimming.

Two sets of blanks are in use. `isWhiteSpace` is the Unicode White_Space property;
numbers read from text are trimmed of it. `isSpace` adds the four information
separators U+001C to U+001F; settings text (flags, comma-separated lists, an empty
attempt limit) is trimmed of that larger set.

`lower` lowers ASCII letters and the Kelvin sign U+212A, the one other character
whose lower case is a single ASCII letter. Comparing its result with an ASCII word
therefore agrees with comparing the full Unicode lower case.
-/

namespace PublishPool.Text

/-- The Unicode White_Space property. -/
def isWhiteSpace (c : Char) : Bool :=
  let n := c.val
  (0x09 ≤ n ∧ n ≤ 0x0D) || n == 0x20 || n == 0x85 || n == 0xA0 || n == 0x1680 ||
    (0x2000 ≤ n ∧ n ≤ 0x200A) || n == 0x2028 || n == 0x2029 || n == 0x202F ||
    n == 0x205F || n == 0x3000

/-- White space together with the information separators U+001C to U+001F. -/
def isSpace (c : Char) : Bool :=
  isWhiteSpace c || (0x1C ≤ c.val ∧ c.val ≤ 0x1F)

/-- Drops the characters of a class from both ends. -/
def trimBy (p : Char → Bool) (s : String) : String :=
  String.ofList (((s.toList.dropWhile p).reverse.dropWhile p).reverse)

/-- Trims `isSpace` characters from both ends. -/
def strip (s : String) : String := trimBy isSpace s

/-- Trims `isWhiteSpace` characters from both ends. -/
def trimWhite (s : String) : String := trimBy isWhiteSpace s

/-- Lowers one character: ASCII letters and the Kelvin sign, all else kept. -/
def lowerChar (c : Char) : Char :=
  if c.val == 0x212A then 'k' else c.toLower

/-- Lowers a text as `lowerChar` does. -/
def lower (s : String) : String :=
  String.ofList (s.toList.map lowerChar)

/-- Splits a text at every comma: one piece more than there are commas, empty
pieces kept. -/
def splitComma (s : String) : List String :=
  (s.toList.splitOn ',').map String.ofList

/-- Splits a text at every comma and strips each piece. -/
def splitCsv (s : String) : List String :=
  (splitComma s).map strip

end PublishPool.Text
