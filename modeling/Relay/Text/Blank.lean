/-!
# Blank characters

The characters with the Unicode property `White_Space`. They may surround the parts of a date and
time.
-/

namespace Relay.Text

/-- The 25 characters with the property `White_Space`. -/
def isBlank (c : Char) : Bool :=
  let n := c.toNat
  (0x09 ≤ n && n ≤ 0x0d) || n == 0x20 || n == 0x85 || n == 0xa0 || n == 0x1680 ||
    (0x2000 ≤ n && n ≤ 0x200a) || n == 0x2028 || n == 0x2029 || n == 0x202f || n == 0x205f ||
    n == 0x3000

/-- The characters from the first that is not blank on. -/
def skipBlank : List Char → List Char := List.dropWhile isBlank

end Relay.Text
