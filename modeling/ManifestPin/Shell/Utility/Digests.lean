import ManifestPin.Shell.Digest
import ManifestPin.Shell.Utility.Basic

/-! # Utilities on digests and encodings

The programs that write and check the digests of files, and those that write octets as letters. -/

namespace ManifestPin.Shell.Utility

/-! ## Digests -/

/-- A kind of digest. -/
structure DigestKind where
  /-- The name in lines that tell the kind. -/
  label : String
  digest : List Nat → List Nat
  /-- How many digits a digest has. -/
  digits : Nat

namespace DigestKind

/-- The digits of the digest of a content. -/
def shown (kind : DigestKind) (content : String) : String :=
  Digest.shown (kind.digest (content.toList.map Char.toNat))

end DigestKind

/-- A line of a list of digests: the digits and the name of the file. -/
def readDigestLine (kind : DigestKind) (line : String) : Option (String × String) :=
  let digits := line.toList.takeWhile fun c => digitValue c < 16
  match line.toList.drop digits.length with
  | ' ' :: mark :: name =>
    if digits.length = kind.digits && (mark = ' ' || mark = '*') && !name.isEmpty then
      some (String.ofList (digits.map Char.toLower), String.ofList name)
    else none
  | _ =>
    let start := kind.label ++ " ("
    if line.startsWith start then
      match (line.drop start.length).toString.splitOn ") = " with
      | [name, digits] => some (digits.map Char.toLower, name)
      | _ => none
    else none

/-- How many lines of a list went wrong, by what was wrong. -/
structure CheckCounts where
  proper : Nat := 0
  verified : Nat := 0
  unreadable : Nat := 0
  mismatched : Nat := 0

/-- Checks the digests of a list. -/
def checkDigests (kind : DigestKind) (taken : Taken) (list : String) : Task Nat := do
  match ← contentOf list with
  | .error fault =>
    report (quoteIfActive list ++ ": " ++ fault.text)
    return 1
  | .ok content =>
    let quiet := taken.has 'q' || taken.has 's'
    let step (counts : CheckCounts) (line : String) : Task CheckCounts := do
      match readDigestLine kind line with
      | none => return counts
      | some (digits, name) =>
        let counts := { counts with proper := counts.proper + 1 }
        match ← contentOf name with
        | .error fault =>
          if taken.has 'i' && fault = .noEntry then return counts
          report (quoteIfActive name ++ ": " ++ fault.text)
          if !taken.has 's' then Task.print (name ++ ": FAILED open or read\n")
          return { counts with unreadable := counts.unreadable + 1 }
        | .ok content =>
          if kind.shown content = digits then
            if !quiet then Task.print (name ++ ": OK\n")
            return { counts with verified := counts.verified + 1 }
          else
            if !taken.has 's' then Task.print (name ++ ": FAILED\n")
            return { counts with mismatched := counts.mismatched + 1 }
    let counts ← (linesOf content).foldlM step {}
    if counts.proper = 0 then
      report (quoteIfActive list ++ ": no properly formatted checksum lines found")
      return 1
    let warn (count : Nat) (one many : String) : Task Unit := do
      if 0 < count && !taken.has 's' then
        report ("WARNING: " ++ toString count ++ " " ++ if count = 1 then one else many)
    warn counts.unreadable "listed file could not be read" "listed files could not be read"
    warn counts.mismatched "computed checksum did NOT match" "computed checksums did NOT match"
    if taken.has 'i' && counts.verified + counts.mismatched = 0 then
      report (quoteIfActive list ++ ": no file was verified")
      return 1
    return if counts.unreadable = 0 && counts.mismatched = 0 then 0 else 1

/-- Writes the digests of files, or checks them. -/
def digests (kind : DigestKind) : Utility :=
  withOptions
    { letters := "bctwzqsgiS", names := [("binary", 'b'), ("check", 'c'), ("text", 't'),
        ("warn", 'w'), ("zero", 'z'), ("quiet", 'q'), ("status", 's'), ("tag", 'g'),
        ("ignore-missing", 'i'), ("strict", 'S')] } 1
    fun taken =>
      if taken.has 'c' then forEach (inputs taken.operands) (checkDigests kind taken)
      else
        forEach (inputs taken.operands) fun operand => do
          match ← contentOf operand with
          | .error fault =>
            report (quoteIfActive operand ++ ": " ++ fault.text)
            return 1
          | .ok content =>
            let escaped := (operand.replace "\\" "\\\\").replace "\n" "\\n"
            let mark := if escaped = operand then "" else "\\"
            let ending := if taken.has 'z' then "\x00" else "\n"
            let digits := kind.shown content
            Task.print (mark ++
              (if taken.has 'g' then kind.label ++ " (" ++ escaped ++ ") = " ++ digits
              else digits ++ (if taken.has 'b' then " *" else "  ") ++ escaped) ++ ending)
            return 0

/-- The programs for the kinds of digests. -/
def digestPrograms : List (String × Utility) :=
  [("sha256sum", digests { label := "SHA256", digest := Digest.sha256, digits := 64 }),
    ("sha224sum", digests { label := "SHA224", digest := Digest.sha224, digits := 56 }),
    ("sha512sum", digests { label := "SHA512", digest := Digest.sha512, digits := 128 }),
    ("sha384sum", digests { label := "SHA384", digest := Digest.sha384, digits := 96 }),
    ("sha1sum", digests { label := "SHA1", digest := Digest.sha1, digits := 40 }),
    ("md5sum", digests { label := "MD5", digest := Digest.md5, digits := 32 })]

/-! ## Letters for octets -/

/-- How octets are written with letters, each of which stands for some bits. -/
structure Lettering where
  letters : List Char
  bits : Nat
  /-- How many octets fill whole letters. -/
  group : Nat

namespace Lettering

/-- Sixty-four letters. -/
def sixtyFour : Lettering :=
  { letters := "ABCDEFGHIJKLMNOPQRSTUVWXYZabcdefghijklmnopqrstuvwxyz0123456789+/".toList
    bits := 6, group := 3 }

/-- Thirty-two letters. -/
def thirtyTwo : Lettering :=
  { letters := "ABCDEFGHIJKLMNOPQRSTUVWXYZ234567".toList, bits := 5, group := 5 }

/-- How many letters a group has. -/
def size (lettering : Lettering) : Nat :=
  8 * lettering.group / lettering.bits

/-- The letters of a group of octets, filled up with equals signs. -/
def encodeGroup (lettering : Lettering) (octets : List Nat) : List Char :=
  let value := ofBigEndian (octets ++ List.replicate (lettering.group - octets.length) 0)
  let used := (8 * octets.length + lettering.bits - 1) / lettering.bits
  (List.range lettering.size).map fun index =>
    if index < used then
      let shift := lettering.bits * (lettering.size - 1 - index)
      lettering.letters.getD (value >>> shift % 1 <<< lettering.bits) '='
    else '='

/-- The letters of octets. -/
def encode (lettering : Lettering) (octets : List Nat) : List Char :=
  let count := (octets.length + lettering.group - 1) / lettering.group
  (blocksOf lettering.group count octets).flatMap lettering.encodeGroup

/-- The octets of a group of letters, if it is a whole one. -/
def decodeGroup? (lettering : Lettering) (group : List Char) : Option (List Nat) :=
  let letters := group.takeWhile (· ≠ '=')
  let rest := group.drop letters.length
  let octets := letters.length * lettering.bits / 8
  let needed := (8 * octets + lettering.bits - 1) / lettering.bits
  if group.length = lettering.size && rest.all (· = '=') && octets ≠ 0 &&
      letters.length = needed then
    (letters.mapM fun c => lettering.letters.findIdx? (· = c)).map fun values =>
      let padding := List.replicate (lettering.size - values.length) 0
      let value := (values ++ padding).foldl
        (fun value digit => value <<< lettering.bits + digit) 0
      (bigEndian lettering.group value).take octets
  else none

/-- The octets of letters up to the first fault, and whether there is none. -/
def decode (lettering : Lettering) (letters : List Char) : List Nat × Bool :=
  let count := (letters.length + lettering.size - 1) / lettering.size
  (blocksOf lettering.size count letters).foldl
    (fun ((found, isWhole) : List Nat × Bool) group =>
      if !isWhole then (found, false)
      else
        match lettering.decodeGroup? group with
        | some octets => (found ++ octets, true)
        | none =>
          let known := group.takeWhile lettering.letters.contains
          let octets := known.length * lettering.bits / 8
          let digits := known.foldl
            (fun value c => value <<< lettering.bits + lettering.letters.findIdx (· = c)) 0
          let value := digits <<< (lettering.bits * (lettering.size - known.length))
          (found ++ (bigEndian lettering.group value).take octets, false))
    ([], true)

end Lettering

/-- Writes octets as letters, or letters as octets. -/
def lettered (lettering : Lettering) : Utility :=
  withOptions
    { letters := "diw:", names := [("decode", 'd'), ("ignore-garbage", 'i'), ("wrap", 'w')] } 1
    fun taken => do
      match taken.operands with
      | _ :: extra :: _ => refuseUsage ("extra operand " ++ quote extra) 1
      | operands =>
        let text := (taken.value? 'w').getD "76"
        if !isNumeral text then
          report ("invalid wrap size: " ++ quote text)
          return 1
        let operand := operands.headD "-"
        match ← contentOf operand with
        | .error fault =>
          report (quoteIfActive operand ++ ": " ++ fault.text)
          return 1
        | .ok content =>
          if taken.has 'd' then
            let isLetter (c : Char) : Bool := c = '=' || lettering.letters.contains c
            let letters := content.toList.filter fun c =>
              if taken.has 'i' then isLetter c else c ≠ '\n'
            let (octets, isWhole) := lettering.decode letters
            Task.print (String.ofList (octets.map Char.ofNat))
            if isWhole then return 0
            report "invalid input"
            return 1
          else
            let letters := lettering.encode (content.toList.map Char.toNat)
            let width := numberOf 10 text.toList
            if width = 0 then Task.print (String.ofList letters)
            else
              let count := (letters.length + width - 1) / width
              Task.print (asLines ((blocksOf width count letters).map String.ofList))
            return 0

end ManifestPin.Shell.Utility
