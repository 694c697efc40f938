/-!
# UTF-8

Bytes as text and text as bytes.  Bytes that are no UTF-8 are divided into maximal
invalid parts: the longest beginnings of characters that break off, and single bytes
that begin none.
-/

namespace IdResolution.Text

/-- The start of a character: how many bytes follow the first, the range that the
next of them lies in, and the value gathered so far. -/
structure Utf8Lead where
  missing : Nat
  low : Nat := 0x80
  high : Nat := 0xbf
  value : Nat
  deriving DecidableEq, Repr

/-- What a first byte starts, if it starts a character. -/
def Utf8Lead.ofByte? (byte : Nat) : Option Utf8Lead :=
  if byte < 0x80 then some { missing := 0, value := byte }
  else if byte < 0xc2 then none
  else if byte < 0xe0 then some { missing := 1, value := byte - 0xc0 }
  else if byte = 0xe0 then some { missing := 2, low := 0xa0, value := 0 }
  else if byte = 0xed then some { missing := 2, high := 0x9f, value := 0xd }
  else if byte < 0xf0 then some { missing := 2, value := byte - 0xe0 }
  else if byte = 0xf0 then some { missing := 3, low := 0x90, value := 0 }
  else if byte < 0xf4 then some { missing := 3, value := byte - 0xf0 }
  else if byte = 0xf4 then some { missing := 3, high := 0x8f, value := 4 }
  else none

/-- Read the missing bytes of a character; none if the bytes break off before. -/
def Utf8Lead.complete (lead : Utf8Lead) : List UInt8 → Option Char × List UInt8
  | [] => (if lead.missing = 0 then some (Char.ofNat lead.value) else none, [])
  | byte :: rest =>
      if lead.missing = 0 then
        (some (Char.ofNat lead.value), byte :: rest)
      else if lead.low ≤ byte.toNat ∧ byte.toNat ≤ lead.high then
        complete { missing := lead.missing - 1, value := lead.value * 64 + byte.toNat % 64 }
          rest
      else
        (none, byte :: rest)

theorem Utf8Lead.length_complete_le (lead : Utf8Lead) (bytes : List UInt8) :
    (lead.complete bytes).2.length ≤ bytes.length := by
  induction bytes generalizing lead with
  | nil => simp [complete]
  | cons byte rest ih =>
      unfold complete
      split
      · simp
      · split
        · exact Nat.le_succ_of_le (ih _)
        · simp

/-- The characters of a row of bytes, with `none` for each maximal invalid part. -/
def decodeUtf8 : List UInt8 → List (Option Char)
  | [] => []
  | byte :: rest =>
      match Utf8Lead.ofByte? byte.toNat with
      | none => none :: decodeUtf8 rest
      | some lead =>
          let read := lead.complete rest
          read.1 :: decodeUtf8 read.2
termination_by bytes => bytes.length
decreasing_by
  · simp
  · have := lead.length_complete_le rest
    simp only [List.length_cons]
    omega

/-- The text of a row of bytes, with the replacement character for each maximal
invalid part. -/
def replaceInvalid (bytes : List UInt8) : String :=
  String.ofList ((decodeUtf8 bytes).map (·.getD '\ufffd'))

/-- The bytes of a character. -/
def utf8Bytes (c : Char) : List Nat :=
  let value := c.toNat
  if value < 0x80 then [value]
  else if value < 0x800 then [0xc0 + value / 64, 0x80 + value % 64]
  else if value < 0x10000 then
    [0xe0 + value / 4096, 0x80 + value / 64 % 64, 0x80 + value % 64]
  else
    [0xf0 + value / 262144, 0x80 + value / 4096 % 64, 0x80 + value / 64 % 64,
      0x80 + value % 64]

end IdResolution.Text
