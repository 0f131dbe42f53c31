/-!
Paths of files.
-/
namespace SwitchLab.Text

def isAbsolutePath (path : String) : Bool := path.toList.head? = some '/'

/-- `path` as seen from `base`. An absolute path stands for itself. -/
def joinPath (base path : String) : String :=
  if isAbsolutePath path || base.isEmpty then path
  else if base.toList.getLast? = some '/' then base ++ path
  else base ++ "/" ++ path

end SwitchLab.Text
