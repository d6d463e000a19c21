/-!
# What can be wrong with a document

The ways in which a text fails to be a JSON document, and the words for them.
-/

namespace Scratchpad.Json

/-- Why a text is no document. -/
inductive TextFault where
  | endInValue
  | endInList
  | endInObject
  | endInString
  | noValue
  | badLiteral
  | keyNotString
  | noColon
  | noObjectComma
  | noListComma
  | trailingComma
  | badNumber
  | numberTooLarge
  | badEscape
  | controlCharacter
  /-- A leading surrogate is not followed by another escape. -/
  | cutSurrogate
  /-- A surrogate stands where its partner cannot. -/
  | loneSurrogate
  | trailingCharacters
  | tooDeep
  deriving DecidableEq, Repr

def TextFault.message : TextFault → String
  | .endInValue => "EOF while parsing a value"
  | .endInList => "EOF while parsing a list"
  | .endInObject => "EOF while parsing an object"
  | .endInString => "EOF while parsing a string"
  | .noValue => "expected value"
  | .badLiteral => "expected ident"
  | .keyNotString => "key must be a string"
  | .noColon => "expected `:`"
  | .noObjectComma => "expected `,` or `\x7d`"
  | .noListComma => "expected `,` or `]`"
  | .trailingComma => "trailing comma"
  | .badNumber => "invalid number"
  | .numberTooLarge => "number out of range"
  | .badEscape => "invalid escape"
  | .controlCharacter => "control character (\\u0000-\\u001F) found while parsing a string"
  | .cutSurrogate => "unexpected end of hex escape"
  | .loneSurrogate => "lone leading surrogate in hex escape"
  | .trailingCharacters => "trailing characters"
  | .tooDeep => "recursion limit exceeded"

end Scratchpad.Json
