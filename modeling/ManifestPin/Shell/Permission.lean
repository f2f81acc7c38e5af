import ManifestPin.Shell.Octets

/-! # Permission texts

How the permission bits of files are written: as an octal number, or as changes of what the owner,
the group and the others may do. -/

namespace ManifestPin.Shell.Permission

/-- The bits of the users that a letter names. -/
def users? : Char → Option Nat
  | 'u' => some 0o4700
  | 'g' => some 0o2070
  | 'o' => some 0o1007
  | 'a' => some 0o7777
  | _ => none

/-- The bits that a letter grants to all users, where `known` are those that are there already. -/
def granted? (isDirectory : Bool) (known : Nat) : Char → Option Nat
  | 'r' => some 0o444
  | 'w' => some 0o222
  | 'x' => some 0o111
  | 'X' => some (if isDirectory || known &&& 0o111 ≠ 0 then 0o111 else 0)
  | 's' => some 0o6000
  | 't' => some 0o1000
  | 'u' => some ((known &&& 0o700) / 0o100 * 0o111)
  | 'g' => some ((known &&& 0o070) / 0o10 * 0o111)
  | 'o' => some ((known &&& 0o007) * 0o111)
  | _ => none

/-- Bits with those of a mask cleared. -/
def clear (bits mask : Nat) : Nat :=
  bits - (bits &&& mask)

/-- The bits after the operations of one clause. -/
def applyOperations (isDirectory : Bool) (users withheld : Nat) : (fuel : Nat) → List Char → Nat →
    Option Nat
  | 0, _, _ => none
  | _ + 1, [], bits => some bits
  | fuel + 1, operator :: rest, bits =>
    let letters := rest.takeWhile fun c => c ≠ '+' && c ≠ '-' && c ≠ '='
    let granted := letters.mapM (granted? isDirectory bits)
    match granted with
    | none => none
    | some granted =>
      let wanted := clear (granted.foldl (· ||| ·) 0 &&& users) withheld
      let after := applyOperations isDirectory users withheld fuel (rest.drop letters.length)
      match operator with
      | '+' => after (bits ||| wanted)
      | '-' => after (clear bits wanted)
      | '=' => after (clear bits (users &&& (if isDirectory then 0o1777 else 0o7777)) ||| wanted)
      | _ => none

/-- The bits after one clause: users and operations. A clause without users leaves out the bits of
the mask. -/
def applyClause (mask : Nat) (isDirectory : Bool) (clause : List Char) (bits : Nat) : Option Nat :=
  let named := clause.takeWhile fun c => (users? c).isSome
  let operations := clause.drop named.length
  let users := (named.filterMap users?).foldl (· ||| ·) 0
  if operations.isEmpty then none
  else if named.isEmpty then
    applyOperations isDirectory 0o7777 mask (operations.length + 1) operations bits
  else applyOperations isDirectory users 0 (operations.length + 1) operations bits

/-- The permission bits that a text makes of those that are there. -/
def change? (mask : Nat) (isDirectory : Bool) (text : String) (bits : Nat) : Option Nat :=
  let chars := text.toList
  if !chars.isEmpty && chars.all isOctal then
    let value := numberOf 8 chars
    if value ≤ 0o7777 then some value else none
  else
    (piecesAt ',' text).foldlM
      (fun bits clause => applyClause mask isDirectory clause.toList bits) bits

/-- The letters of three permission bits. -/
def letters (bits : Nat) : String :=
  String.ofList
    (([(4, 'r'), (2, 'w'), (1, 'x')].filter fun (entry : Nat × Char) => bits &&& entry.1 ≠ 0).map
      (·.2))

/-- The permissions that a mask leaves, as letters. -/
def maskText (mask : Nat) : String :=
  let left := clear 0o777 mask
  "u=" ++ letters (left / 0o100) ++ ",g=" ++ letters (left / 0o10 % 8) ++ ",o=" ++
    letters (left % 8)

end ManifestPin.Shell.Permission
