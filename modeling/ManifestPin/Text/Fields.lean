/-! # Separated fields -/

namespace ManifestPin.Text

/-- The pieces of a text between occurrences of a separator. There is always at least one. -/
def splitAt (separator : Char) : List Char → List (List Char)
  | [] => [[]]
  | c :: rest =>
    if c = separator then [] :: splitAt separator rest
    else match splitAt separator rest with
      | [] => [[c]]
      | piece :: more => (c :: piece) :: more

end ManifestPin.Text
