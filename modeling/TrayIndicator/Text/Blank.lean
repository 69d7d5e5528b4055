/-!
# Blank text

The characters with the Unicode property `White_Space`, and the test that a
text holds nothing else. A required value of the settings may not be blank.
-/

namespace TrayIndicator.Text

/-- The characters with the Unicode property `White_Space`. -/
def isBlankChar (c : Char) : Bool :=
  let n := c.toNat
  (9 ≤ n && n ≤ 13) || n == 0x20 || n == 0x85 || n == 0xA0 || n == 0x1680 ||
    (0x2000 ≤ n && n ≤ 0x200A) || n == 0x2028 || n == 0x2029 || n == 0x202F ||
    n == 0x205F || n == 0x3000

/-- Does the text hold blank characters only? -/
def isBlank (text : String) : Bool := text.toList.all isBlankChar

/-- The empty text is blank. -/
theorem isBlank_empty : isBlank "" = true := rfl

/-- The text without the blank characters at its two ends. -/
def trim (text : String) : String :=
  String.ofList ((text.toList.dropWhile isBlankChar).reverse.dropWhile isBlankChar).reverse

end TrayIndicator.Text
