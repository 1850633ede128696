import BpfExporter.Exposition.LabelText
import BpfExporter.Utf8

/-! Why an exposition text is refused, and the message that says so. -/
namespace BpfExporter.Exposition

/-- Why a text is refused. -/
inductive Malformed
  | invalidUtf8 (reason : Utf8.Reason)
  | truncatedUtf8 (reason : Utf8.Reason)
  | dataAfterEnd
  | endWithoutNewline
  | noEnd
  | helpWithoutType
  | metadata (line : String)
  | typeWithoutHelp (name : String)
  | typeInside (name section_ : String)
  | unsupportedType (text : String)
  | unitMisplaced
  | unitInside (name section_ : String)
  | unknownKeyword (keyword : String)
  | sampleOutside (line : String)
  | sample (line : String)
  | foreignSample (name family : String)
  | notNumeric (text : String)
  | negativeCounter (value : Int)
  | labels (e : LabelText.ReadError)
  | badEscape (e : Escape.BadEscape)
  | idLabel (family : String)
deriving DecidableEq, Repr

def badEscapeMessage (e : Escape.BadEscape) : String :=
  "invalid escape sequence '\\" ++ String.ofList e.char.toList ++ "'"

def Malformed.message : Malformed → String
  | .invalidUtf8 r => "invalid UTF-8: " ++ r.message
  | .truncatedUtf8 r => "truncated UTF-8 sequence: " ++ r.message
  | .dataAfterEnd => "data after # EOF"
  | .endWithoutNewline => "# EOF must be followed by a newline"
  | .noEnd => "payload does not end with # EOF"
  | .helpWithoutType => "# HELP without matching # TYPE"
  | .metadata line => "malformed metadata line " ++ Text.quoted line
  | .typeWithoutHelp name => s!"# TYPE for {name} without preceding # HELP"
  | .typeInside name s => s!"# TYPE for {name} inside section {s}"
  | .unsupportedType text => "unsupported metric type " ++ Text.quoted text
  | .unitMisplaced => "# UNIT must directly follow # TYPE"
  | .unitInside name s => s!"# UNIT for {name} inside section {s}"
  | .unknownKeyword keyword => "unknown metadata keyword " ++ Text.quoted keyword
  | .sampleOutside line => "sample line outside a family section: " ++ Text.quoted line
  | .sample line => "malformed sample line " ++ Text.quoted line
  | .foreignSample name family => s!"sample {name} does not belong to family {family}"
  | .notNumeric text => "non-numeric sample value " ++ Text.quoted text
  | .negativeCounter value => s!"negative counter value {value}"
  | .labels (.malformed rest) => "malformed label set near " ++ Text.quoted rest
  | .labels (.duplicate name) => s!"duplicate label '{name}'"
  | .labels (.badEscape e) => badEscapeMessage e
  | .badEscape e => badEscapeMessage e
  | .idLabel family => s!"sample of {family} has no numeric id label"

/-- A text is refused at a line, or a numeral in it is too long to convert. -/
inductive DecodeError
  | parse (line : Nat) (why : Malformed)
  | numeral (e : Numeral.TooLong)
deriving DecidableEq, Repr

def DecodeError.message : DecodeError → String
  | .parse line why => s!"line {line}: " ++ why.message
  | .numeral e => e.message

/-- Why a line is refused, without its number. -/
inductive LineError
  | malformed (why : Malformed)
  | numeral (e : Numeral.TooLong)
deriving DecidableEq, Repr

def LineError.at (line : Nat) : LineError → DecodeError
  | .malformed why => .parse line why
  | .numeral e => .numeral e

end BpfExporter.Exposition
