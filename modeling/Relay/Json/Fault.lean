/-!
# What can be wrong with a JSON text

A reader stops at the first mistake and reports it in fixed words. Mistakes are of two kinds: the text
stops too early, or it holds something that cannot stand there.
-/

namespace Relay.Json

/-- The kinds of mistakes. -/
inductive Fault where
  | unfinished
  | malformed
  deriving DecidableEq, Repr

/-- A mistake in a text. -/
inductive Mistake where
  /-- The text ends where a value should be, or inside one. -/
  | endInValue
  | endInText
  | endInList
  | endInRecord
  | noColon
  /-- Neither a comma nor the end of a list comes after an item. -/
  | noListNext
  /-- Neither a comma nor the end of a record comes after a member. -/
  | noRecordNext
  /-- A word begins like one of the literal words and goes on otherwise. -/
  | noWord
  | noValue
  | badEscape
  | badNumeral
  /-- A numeral is beyond every double. -/
  | hugeNumeral
  /-- A control stands in a string as itself. -/
  | control
  /-- Something other than a string stands where a name should be. -/
  | noName
  /-- The second half of a surrogate pair comes first, or the first half is followed by another unit. -/
  | loneHalf
  /-- The first half of a surrogate pair is followed by no unit. -/
  | unpairedHalf
  /-- The last comma is followed by the end of a list or record. -/
  | trailingComma
  /-- Something follows where nothing may. -/
  | trailing
  deriving DecidableEq, Repr

namespace Mistake

/-- The wording of a mistake. -/
def message : Mistake → String
  | endInValue => "EOF while parsing a value"
  | endInText => "EOF while parsing a string"
  | endInList => "EOF while parsing a list"
  | endInRecord => "EOF while parsing an object"
  | noColon => "expected `:`"
  | noListNext => "expected `,` or `]`"
  | noRecordNext => "expected `,` or `\x7d`"
  | noWord => "expected ident"
  | noValue => "expected value"
  | badEscape => "invalid escape"
  | badNumeral => "invalid number"
  | hugeNumeral => "number out of range"
  | control => "control character (\\u0000-\\u001F) found while parsing a string"
  | noName => "key must be a string"
  | loneHalf => "lone leading surrogate in hex escape"
  | unpairedHalf => "unexpected end of hex escape"
  | trailingComma => "trailing comma"
  | trailing => "trailing characters"

/-- The kind of a mistake. -/
def fault : Mistake → Fault
  | endInValue | endInText | endInList | endInRecord => .unfinished
  | noColon | noListNext | noRecordNext | noWord | noValue | badEscape | badNumeral | hugeNumeral
  | control | noName | loneHalf | unpairedHalf | trailingComma | trailing => .malformed

end Mistake

end Relay.Json
