/-! # Similar texts

How much two texts have in common: the share of characters that agree at nearly the same place,
less those that agree out of order. -/

namespace ManifestPin.Text

/-- How far apart the places of characters that agree may be. -/
def agreementReach (a b : List Char) : Nat :=
  max a.length b.length / 2 - 1

/-- The characters of a text paired with those of another one: for each character of the first text,
the place of the first free character of the second one that agrees with it within reach. -/
def agreements (reach : Nat) (b : List Char) : Nat → List Nat → List Char → List (Char × Nat)
  | _, _, [] => []
  | place, taken, c :: rest =>
    let near := (List.range b.length).drop (place - reach)
    let within := near.take (place + reach + 1 - (place - reach))
    match within.find? fun other => b[other]? = some c && !taken.contains other with
    | some other => (c, other) :: agreements reach b (place + 1) (other :: taken) rest
    | none => agreements reach b (place + 1) taken rest

/-- The similarity of two texts, from zero to one. -/
def similarity (a b : List Char) : Rat :=
  if a.isEmpty && b.isEmpty then 1
  else
    let agreed := agreements (agreementReach a b) b 0 [] a
    let count := agreed.length
    if count = 0 then 0
    else
      let places := (agreed.map (·.2)).mergeSort fun x y => x ≤ y
      let reordered := places.filterMap fun place => b[place]?
      let displaced := ((agreed.map (·.1)).zip reordered).countP fun (x, y) => x ≠ y
      let share (part whole : Nat) : Rat := part / whole
      (share count a.length + share count b.length + share (count - displaced / 2) count) / 3

end ManifestPin.Text
