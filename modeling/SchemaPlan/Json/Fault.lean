import SchemaPlan.Json.Found

namespace SchemaPlan.Json

open Decimal

inductive Fault where
  | endOfList
  | endOfObject
  | endOfString
  | endOfValue
  | expectedColon
  | expectedListEnd
  | expectedObjectEnd
  | expectedWord
  | expectedValue
  | keyNotString
  | trailingComma
  | trailingCharacters
  | badEscape
  | cutEscape
  | loneSurrogate
  | controlCharacter
  | badNumber
  | numberOutOfRange
  | tooDeep
  | notEmbedded (found : Found)
deriving DecidableEq

namespace Fault

def message : Fault → String
  | .endOfList => "EOF while parsing a list"
  | .endOfObject => "EOF while parsing an object"
  | .endOfString => "EOF while parsing a string"
  | .endOfValue => "EOF while parsing a value"
  | .expectedColon => "expected `:`"
  | .expectedListEnd => "expected `,` or `]`"
  | .expectedObjectEnd => "expected `,` or `\x7d`"
  | .expectedWord => "expected ident"
  | .expectedValue => "expected value"
  | .keyNotString => "key must be a string"
  | .trailingComma => "trailing comma"
  | .trailingCharacters => "trailing characters"
  | .badEscape => "invalid escape"
  | .cutEscape => "unexpected end of hex escape"
  | .loneSurrogate => "lone leading surrogate in hex escape"
  | .controlCharacter => "control character (\\u0000-\\u001F) found while parsing a string"
  | .badNumber => "invalid number"
  | .numberOutOfRange => "number out of range"
  | .tooDeep => "recursion limit exceeded"
  | .notEmbedded found => "invalid type: " ++ found.text ++ ", expected raw value"

def isEnd : Fault → Bool
  | .endOfList | .endOfObject | .endOfString | .endOfValue => true
  | _ => false

end Fault

/-- Why a text is no JSON text, and where: in which line, counted from one, and how many bytes of
that line were passed. The lines of an embedded text are its own. -/
structure ReadError where
  fault : Fault
  line : Nat
  column : Nat
  embedded : Bool
deriving DecidableEq

namespace ReadError

def message (e : ReadError) : String :=
  e.fault.message ++ " at line " ++ Numeral.ofNat e.line ++ " column " ++ Numeral.ofNat e.column

def isEnd (e : ReadError) : Bool :=
  e.fault.isEnd && !e.embedded

end ReadError

/-- Where reading stops: at a fault with so many bytes of the text left, or at one inside a text
that is embedded in it. -/
inductive Stop where
  | here (fault : Fault) (left : Nat)
  | embedded (e : ReadError)
deriving DecidableEq

namespace Stop

def size (s : List Char) : Nat :=
  (String.ofList s).utf8ByteSize

def position (line column : Nat) : (bytes : Nat) → List Char → Nat × Nat
  | _, [] => (line, column)
  | bytes, c :: cs =>
    if bytes < c.utf8Size then (line, column + bytes)
    else if c = '\n' then position (line + 1) 0 (bytes - c.utf8Size) cs
    else position line (column + c.utf8Size) (bytes - c.utf8Size) cs

def error (text : List Char) : Stop → ReadError
  | .here fault left =>
    let (line, column) := position 1 0 (size text - left) text
    ⟨fault, line, column, false⟩
  | .embedded e => { e with embedded := true }

def before (fault : Fault) (s : List Char) : Except Stop α :=
  .error (.here fault (size s))

def afterBytes (bytes : Nat) (fault : Fault) (s : List Char) : Except Stop α :=
  .error (.here fault (size s - bytes))

def after (fault : Fault) (s : List Char) : Except Stop α :=
  afterBytes 1 fault s

end Stop

end SchemaPlan.Json
