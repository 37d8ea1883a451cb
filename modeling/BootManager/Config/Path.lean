/-!
# Paths

Paths are written with slashes or backslashes and kept with single backslashes between their parts.
-/

namespace BootManager.Config.Path

/-- Whether a character separates the parts of a path. -/
def isSeparator (c : Char) : Bool :=
  c == '/' || c == '\\'

/-- Joins the parts of a path by single backslashes. `started` tells whether a part was written
before, and `pending` whether a separator has to be written before the next one. -/
def squeeze (started pending : Bool) : List Char → List Char
  | [] => []
  | c :: rest =>
    if isSeparator c then squeeze started started rest
    else if pending then '\\' :: c :: squeeze true false rest
    else c :: squeeze true false rest

/-- Cleans the separators of a path. A path of separators alone is the root, `\`. -/
def cleanChars (cs : List Char) : List Char :=
  if cs.isEmpty then []
  else
    match squeeze false false cs with
    | [] => ['\\']
    | cleaned => cleaned

/-- The text of a path with its separators cleaned. -/
def clean (path : String) : String :=
  String.ofList (cleanChars path.toList)

/-- The directory part of a path: what stands before its last backslash, if there is one. -/
def directory (path : String) : String :=
  String.ofList ((path.toList.reverse.dropWhile (· != '\\')).drop 1).reverse

end BootManager.Config.Path
