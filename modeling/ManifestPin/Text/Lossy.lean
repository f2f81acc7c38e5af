/-! # Reading octets that may not be text

Octets that form no UTF-8 sequence are read as the replacement character, one for each longest
piece that starts a sequence. -/

namespace ManifestPin.Text

/-- A UTF-8 sequence of which some octets have been read. -/
structure PendingSequence where
  /-- The payload bits read so far. -/
  value : Nat
  /-- How many octets are missing, less one. -/
  missing : Nat
  /-- The least next octet. -/
  low : Nat
  /-- The greatest next octet. -/
  high : Nat

/-- What the first octet of a sequence promises. -/
inductive LeadOctet where
  /-- The octet is a character. -/
  | complete (c : Char)
  /-- The octet starts a longer sequence. -/
  | opens (sequence : PendingSequence)
  /-- No sequence starts with the octet. -/
  | stray

/-- The character that stands for octets that are not text. -/
def replacement : Char :=
  '\ufffd'

/-- The reading of an octet between sequences. The bounds on the second octet keep out overlong
forms, surrogates and values beyond the last code point. -/
def readLead (octet : UInt8) : LeadOctet :=
  let code := octet.toNat
  if code < 0x80 then .complete (Char.ofNat code)
  else if 0xC2 ≤ code && code ≤ 0xDF then .opens ⟨code - 0xC0, 0, 0x80, 0xBF⟩
  else if code = 0xE0 then .opens ⟨0, 1, 0xA0, 0xBF⟩
  else if code = 0xED then .opens ⟨0xD, 1, 0x80, 0x9F⟩
  else if 0xE1 ≤ code && code ≤ 0xEF then .opens ⟨code - 0xE0, 1, 0x80, 0xBF⟩
  else if code = 0xF0 then .opens ⟨0, 2, 0x90, 0xBF⟩
  else if code = 0xF4 then .opens ⟨4, 2, 0x80, 0x8F⟩
  else if 0xF1 ≤ code && code ≤ 0xF3 then .opens ⟨code - 0xF0, 2, 0x80, 0xBF⟩
  else .stray

/-- The characters of octets, read after the octets of a pending sequence. -/
def readOctets : Option PendingSequence → List UInt8 → List Char
  | none, [] => []
  | some _, [] => [replacement]
  | pending, octet :: rest =>
    let restart (_ : Unit) : List Char :=
      match readLead octet with
      | .complete c => c :: readOctets none rest
      | .opens sequence => readOctets (some sequence) rest
      | .stray => replacement :: readOctets none rest
    match pending with
    | none => restart ()
    | some sequence =>
      if sequence.low ≤ octet.toNat && octet.toNat ≤ sequence.high then
        let value := sequence.value * 64 + (octet.toNat - 0x80)
        match sequence.missing with
        | 0 => Char.ofNat value :: readOctets none rest
        | missing + 1 => readOctets (some ⟨value, missing, 0x80, 0xBF⟩) rest
      else replacement :: restart ()

/-- The text of octets, with the replacement character for those that are not text. -/
def ofOctets (octets : ByteArray) : String :=
  String.ofList (readOctets none octets.toList)

end ManifestPin.Text
