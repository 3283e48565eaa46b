/-!
Texts by their beginnings, ends and parts, character by character.
-/

namespace CloudIdentity.Text

def begins (beginning s : String) : Bool := beginning.toList.isPrefixOf s.toList

def ends (ending s : String) : Bool := ending.toList.isSuffixOf s.toList

/-- The text `s` without one `beginning` in front; `s` itself if it begins otherwise. -/
def without (beginning s : String) : String :=
  if begins beginning s then String.ofList (s.toList.drop beginning.length) else s

def contains (c : Char) (s : String) : Bool := s.toList.contains c

/-- Whether characters stand somewhere among others, next to each other. -/
def isPart (part : List Char) : List Char → Bool
  | [] => part.isEmpty
  | c :: rest => part.isPrefixOf (c :: rest) || isPart part rest

def hasPart (part s : String) : Bool := isPart part.toList s.toList

theorem begins_append (beginning s : String) : begins beginning (beginning ++ s) = true := by
  simp [begins, List.isPrefixOf_iff_prefix]

theorem without_append (beginning s : String) : without beginning (beginning ++ s) = s := by
  rw [without, if_pos (begins_append beginning s), String.toList_append, ← String.length_toList,
    List.drop_left, String.ofList_toList]

theorem without_of_not_begins {beginning s : String} (h : begins beginning s = false) :
    without beginning s = s := by
  simp [without, h]

end CloudIdentity.Text
