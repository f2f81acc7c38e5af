import ManifestPin.Shell.Digest
import ManifestPin.Shell.Utility.Basic

/-! # Showing octets

The program that shows the octets of contents as numbers or characters, with their positions. -/

namespace ManifestPin.Shell.Utility

/-- How octets are shown. -/
inductive OctetForm where
  | named
  | character
  /-- Numbers of so many octets in a base, with a sign or without. -/
  | number (base size : Nat) (signed : Bool)

namespace OctetForm

/-- How many octets are shown at once. -/
def size : OctetForm → Nat
  | .number _ size _ => size
  | _ => 1

/-- How many characters a number takes. -/
def width : OctetForm → Nat
  | .number base size signed =>
    let most := (digitsOf base (1 <<< (8 * size) - 1)).length
    if signed then (digitsOf 10 (1 <<< (8 * size - 1))).length + 1 else most
  | _ => 3

/-- The names of the octets below the blank. -/
def names : List String :=
  ["nul", "soh", "stx", "etx", "eot", "enq", "ack", "bel", "bs", "ht", "nl", "vt", "ff", "cr", "so",
    "si", "dle", "dc1", "dc2", "dc3", "dc4", "nak", "syn", "etb", "can", "em", "sub", "esc", "fs",
    "gs", "rs", "us", "sp"]

/-- Some octets as they are shown. -/
def shown (form : OctetForm) (octets : List Nat) : String :=
  match form with
  | .named =>
    let octet := octets.headD 0 % 128
    if octet = 127 then "del" else (names[octet]?).getD (String.singleton (Char.ofNat octet))
  | .character =>
    match octets.headD 0 with
    | 0 => "\\0"
    | 7 => "\\a"
    | 8 => "\\b"
    | 9 => "\\t"
    | 10 => "\\n"
    | 11 => "\\v"
    | 12 => "\\f"
    | 13 => "\\r"
    | octet =>
      if 32 ≤ octet && octet < 127 then String.singleton (Char.ofNat octet)
      else padStart 3 '0' (digitsOf 8 octet)
  | .number base size signed =>
    let value := ofBigEndian (octets ++ List.replicate (size - octets.length) 0).reverse
    if signed then
      let half := 1 <<< (8 * size - 1)
      if value < half then toString value else "-" ++ toString (2 * half - value)
    else if base = 10 then toString value
    else padStart form.width '0' (digitsOf base value)

/-- The forms that the text of an option names, each with whether the characters are shown too. -/
def ofText? : (fuel : Nat) → List Char → Except Char (List (OctetForm × Bool))
  | 0, _ => .ok []
  | _ + 1, [] => .ok []
  | fuel + 1, c :: rest =>
    let digits := rest.takeWhile Char.isDigit
    let letter : Option Nat :=
      match rest.head? with
      | some 'C' => some 1
      | some 'S' => some 2
      | some 'I' => some 4
      | some 'L' => some 8
      | _ => none
    let isNumber := c = 'd' || c = 'o' || c = 'u' || c = 'x'
    let used := if !isNumber then 0 else if letter.isSome then 1 else digits.length
    let size := if used = 0 then 4 else letter.getD (numberOf 10 digits)
    let rest := rest.drop used
    let shows := rest.head? = some 'z'
    let found : Option OctetForm :=
      match c with
      | 'a' => some .named
      | 'c' => some .character
      | 'd' => some (.number 10 size true)
      | 'o' => some (.number 8 size false)
      | 'u' => some (.number 10 size false)
      | 'x' => some (.number 16 size false)
      | _ => none
    match found with
    | none => .error c
    | some form =>
      (ofText? fuel (if shows then rest.drop 1 else rest)).map ((form, shows) :: ·)

end OctetForm

/-- The forms that options ask for. -/
def formsOf : List (Char × String) → Except (Char × String) (List (OctetForm × Bool))
  | [] => .ok []
  | (letter, value) :: rest => do
    let forms ←
      match letter with
      | 't' => (OctetForm.ofText? (value.length + 1) value.toList).mapError fun c => (c, value)
      | 'a' => .ok [(.named, false)]
      | 'b' => .ok [(.number 8 1 false, false)]
      | 'c' => .ok [(.character, false)]
      | 'd' => .ok [(.number 10 2 false, false)]
      | 'o' => .ok [(.number 8 2 false, false)]
      | 's' => .ok [(.number 10 2 true, false)]
      | 'x' => .ok [(.number 16 2 false, false)]
      | _ => .ok []
    return forms ++ (← formsOf rest)

/-- A row of octets in a form, where each piece takes so many characters, filled up to a number of
octets. -/
def octetRow (form : OctetForm) (perPiece width : Nat) (octets : List Nat) : String :=
  let count := (octets.length + form.size - 1) / form.size
  String.join ((blocksOf form.size count octets).map fun piece =>
    padStart perPiece ' ' (form.shown piece)) ++
      String.ofList (List.replicate (perPiece * (width / form.size - count)) ' ')

/-- Shows the octets of files. -/
def od : Utility :=
  withOptions
    { letters := "A:t:j:N:w::vabcdosx", names := [("address-radix", 'A'), ("format", 't'),
        ("skip-bytes", 'j'), ("read-bytes", 'N'), ("width", 'w'), ("output-duplicates", 'v')] } 1
    fun taken => do
      match formsOf taken.options with
      | .error (c, text) =>
        report ("invalid character " ++ quote (String.singleton c) ++ " in type string " ++
          quote text)
        return 1
      | .ok forms =>
        let forms := if forms.isEmpty then [(.number 8 2 false, false)] else forms
        let mut content := ""
        let mut status := 0
        let mut anyRead := false
        for operand in inputs taken.operands do
          match ← contentOf operand with
          | .ok text =>
            content := content ++ text
            anyRead := true
          | .error fault =>
            report (operand ++ ": " ++ fault.text)
            status := 1
        if !anyRead then return status
        let skipped := ((taken.value? 'j').bind sizeOf?).getD 0
        let octets := (content.toList.drop skipped).map Char.toNat
        let octets := ((taken.value? 'N').bind sizeOf?).elim octets octets.take
        let width := if taken.has 'w' then ((taken.value? 'w').bind String.toNat?).getD 32 else 16
        let largest := (forms.map (·.1.size)).foldl max 1
        let perLargest := (forms.map fun (form, _) =>
          largest / form.size * (form.width + 1)).foldl max 1
        let perPiece (form : OctetForm) : Nat := perLargest * form.size / largest
        let address (position : Nat) : String :=
          match taken.value? 'A' with
          | some "n" => ""
          | some "d" => padStart 7 '0' (toString position)
          | some "x" => padStart 6 '0' (digitsOf 16 position)
          | _ => padStart 7 '0' (digitsOf 8 position)
        let blank := String.ofList (List.replicate (address 0).length ' ')
        let row (position : Nat) (piece : List Nat) : String :=
          String.join (forms.zipIdx.map fun ((form, shows), index) =>
            let start := if index = 0 then address position else blank
            let text :=
              if shows then
                let seen (octet : Nat) : Char :=
                  if 32 ≤ octet && octet < 127 then Char.ofNat octet else '.'
                octetRow form (perPiece form) width piece ++ "  >" ++ String.ofList (piece.map seen) ++ "<"
              else octetRow form (perPiece form) 0 piece
            start ++ text ++ "\n")
        let pieces := blocksOf width ((octets.length + width - 1) / width) octets
        let (shown, _, _) := pieces.zipIdx.foldl
          (fun ((shown, previous, hides) : List String × List Nat × Bool) (piece, index) =>
            if previous = piece && !taken.has 'v' && piece.length = width then
              ((if hides then shown else "*\n" :: shown), piece, true)
            else (row (skipped + index * width) piece :: shown, piece, false))
          ([], [], false)
        Task.print (String.join shown.reverse)
        if address 0 ≠ "" then Task.print (address (skipped + octets.length) ++ "\n")
        return status

end ManifestPin.Shell.Utility
