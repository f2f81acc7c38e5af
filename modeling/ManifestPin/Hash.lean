import ManifestPin.Text.Blank

/-! # Content hashes

A pinned hash is either an algorithm's name, a hyphen and a payload, or a plain digest. A
placeholder has the shape and length of the hash it stands for. -/

namespace ManifestPin

/-- The algorithms that a hash can name. -/
inductive HashAlgorithm where
  | sha256
  | sha384
  | sha512
  deriving DecidableEq, Repr

namespace HashAlgorithm

/-- The name of an algorithm as hashes spell it. -/
def name : HashAlgorithm → String
  | .sha256 => "sha256"
  | .sha384 => "sha384"
  | .sha512 => "sha512"

/-- All algorithms. -/
def all : List HashAlgorithm :=
  [.sha256, .sha384, .sha512]

end HashAlgorithm

/-- The shape of a hash. -/
inductive HashShape where
  /-- An algorithm's name, a hyphen and a payload. -/
  | named (algorithm : HashAlgorithm)
  /-- Any other text. -/
  | plain
  deriving DecidableEq, Repr

namespace Hash

/-- What follows an algorithm's name and the given separator. -/
def payload? (algorithm : HashAlgorithm) (separator : Char) (hash : List Char) :
    Option (List Char) :=
  Text.dropStart? (algorithm.name.toList ++ [separator]) hash

/-- The algorithm that a hash names, and the payload after the hyphen. -/
def named? (hash : List Char) : Option (HashAlgorithm × List Char) :=
  HashAlgorithm.all.findSome? fun algorithm =>
    (payload? algorithm '-' hash).map fun payload => (algorithm, payload)

/-- The shape of a hash. -/
def shape (hash : String) : HashShape :=
  match named? hash.toList with
  | some (algorithm, _) => .named algorithm
  | none => .plain

/-- Whether a hash names its algorithm. -/
def isNamed (hash : String) : Bool :=
  (named? hash.toList).isSome

/-- A hash that no content has, of the same shape and, unless the payload is empty, the same
length. -/
def placeholder (hash : String) : String :=
  match named? hash.toList with
  | some (algorithm, payload) =>
    String.ofList (algorithm.name.toList ++ '-' :: List.replicate (payload.length - 1) 'A' ++ ['='])
  | none => String.ofList (List.replicate hash.toList.length '0')

/-- Whether a hash is its own placeholder. The empty text is none. -/
def isPlaceholder (hash : String) : Bool :=
  !hash.toList.isEmpty && placeholder hash == hash

/-- The hash that a report means: a digest behind an algorithm's name and a colon is plain. -/
def ofReported (token : String) : String :=
  if isNamed token then token
  else
    match HashAlgorithm.all.findSome? fun algorithm => payload? algorithm ':' token.toList with
    | some digest => String.ofList digest
    | none => token

end Hash

end ManifestPin
