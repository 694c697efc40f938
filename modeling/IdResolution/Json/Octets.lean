import IdResolution.Json.Basic
import IdResolution.Text.Utf8

/-!
# JSON from bytes

A JSON text may come as bytes that are not all UTF-8.  That does no harm inside a
string whose content nobody asks for, so each invalid part is spelled by escapes that
leave the string around it without content.  Anywhere else they are as malformed as
the part itself.
-/

namespace IdResolution.Json

/-- Two low surrogates.  At least the second of them has no partner, whatever stands
around. -/
def unpairedEscapes : List Char :=
  "\\udc00\\udc00".toList

/-- Spell the invalid parts of a text.  The flag tells that the character before
escapes the next; an invalid part can not be escaped, and nor can what is put in its
place there. -/
def spellInvalid : Bool → List (Option Char) → List Char
  | _, [] => []
  | isEscaped, some c :: rest => c :: spellInvalid (c = '\\' && !isEscaped) rest
  | isEscaped, none :: rest =>
      (if isEscaped then ['\ufffd'] else unpairedEscapes) ++ spellInvalid false rest

/-- The text by which bytes are read as JSON. -/
def textOfOctets (bytes : List UInt8) : String :=
  String.ofList (spellInvalid false (Text.decodeUtf8 bytes))

end IdResolution.Json
