/-!
# Fields of a text

Texts that a separator divides.
-/

namespace DeviceUplink.Text

/-- The fields between the separators; there is always one more than there are separators. -/
def split (separator : Char) : List Char → List (List Char)
  | [] => [[]]
  | c :: rest =>
    if c = separator then [] :: split separator rest
    else
      match split separator rest with
      | [] => [[c]]
      | field :: fields => (c :: field) :: fields

/-- What stands before and behind the last separator. -/
def splitLast (separator : Char) : List Char → Option (List Char × List Char)
  | [] => none
  | c :: rest =>
    match splitLast separator rest with
    | some (before, behind) => some (c :: before, behind)
    | none => if c = separator then some ([], rest) else none

end DeviceUplink.Text
