import SwitchLab.Text.Path

/-! Directories that lie in another one. Only the names of paths are looked at,
not what a file system makes of them. -/

namespace SwitchLab.Text

variable {base path : String}

/-- The parts of a path between slashes, without those that stand for nothing. -/
def pathParts (path : String) : List (List Char) :=
  (path.toList.splitOn '/').filter fun part => part ≠ [] ∧ part ≠ ['.']

theorem isAbsolutePath_iff : isAbsolutePath path = true ↔ ∃ cs, path.toList = '/' :: cs := by
  rw [isAbsolutePath, decide_eq_true_eq, List.head?_eq_some_iff]

theorem ne_empty_of_isAbsolutePath (h : isAbsolutePath path = true) : path.isEmpty = false := by
  obtain ⟨cs, hcs⟩ := isAbsolutePath_iff.mp h
  rw [← Bool.not_eq_true, String.isEmpty_iff]
  rintro rfl
  cases hcs

theorem isAbsolutePath_joinPath (h : isAbsolutePath base = true) :
    isAbsolutePath (joinPath base path) = true := by
  obtain ⟨cs, hcs⟩ := isAbsolutePath_iff.mp h
  rw [joinPath]
  split
  · simp_all [ne_empty_of_isAbsolutePath h]
  · split
    · exact isAbsolutePath_iff.mpr ⟨cs ++ path.toList, by simp [hcs]⟩
    · exact isAbsolutePath_iff.mpr ⟨cs ++ '/' :: path.toList, by simp [hcs]⟩

/-- A path that is not absolute adds its parts. -/
theorem pathParts_joinPath (hb : base.isEmpty = false) (hp : isAbsolutePath path = false) :
    pathParts (joinPath base path) = pathParts base ++ pathParts path := by
  rw [joinPath, hb, hp]
  simp only [Bool.or_self, Bool.false_eq_true, if_false]
  split
  case isTrue h =>
    -- what stands after the last slash of the base is empty
    obtain ⟨cs, hcs⟩ := List.getLast?_eq_some_iff.mp h
    simp [pathParts, hcs, List.splitOn_append_cons_self]
  case isFalse h =>
    have hjoin : (base ++ "/" ++ path).toList = base.toList ++ '/' :: path.toList := by simp
    simp [pathParts, hjoin, List.splitOn_append_cons_self]

/-- `path` names an entry of the directory `root`. -/
def IsChild (root path : String) : Prop :=
  isAbsolutePath path = true ∧ ∃ part, part ≠ ['.', '.'] ∧ pathParts path = pathParts root ++ [part]

/-- `name`, as seen from `root`, names an entry of it. -/
def NamesChild (root name : String) : Prop :=
  if isAbsolutePath name then IsChild root name
  else ∃ part, part ≠ ['.', '.'] ∧ pathParts name = [part]

theorem isChild_joinPath_iff (hb : isAbsolutePath base = true) :
    IsChild base (joinPath base path) ↔ NamesChild base path := by
  rw [NamesChild]
  split
  case isTrue h => simp [joinPath, h]
  case isFalse h =>
    have hp : isAbsolutePath path = false := Bool.eq_false_iff.mpr h
    have hparts := pathParts_joinPath (ne_empty_of_isAbsolutePath hb) hp
    simp [IsChild, isAbsolutePath_joinPath hb, hparts]

end SwitchLab.Text
