import BootManager.Text.Blank

/-!
# Arguments

The words of a command line: clusters of letters, long names, and everything else. A long name may
bring a value with it, and two dashes alone make all words after them plain.
-/

namespace BootManager.CommandLine

/-- What stands on a command line. -/
inductive Argument where
  /-- One letter of a cluster. -/
  | letter (c : Char)
  /-- A long name. -/
  | name (text : String)
  /-- The value that came with the name before it. -/
  | value (text : String)
  /-- A word that is no option. -/
  | plain (text : String)
  deriving DecidableEq, Repr

namespace Argument

/-- The arguments in what stands after two dashes. -/
def ofLong (cs : List Char) : List Argument :=
  let name : Argument := .name (String.ofList (cs.takeWhile (· != '=')))
  match cs.dropWhile (· != '=') with
  | [] => [name]
  | _ :: given => [name, .value (String.ofList given)]

/-- The arguments in one word. -/
def ofWord (word : String) : List Argument :=
  match word.toList with
  | '-' :: '-' :: rest => ofLong rest
  | '-' :: c :: rest => (c :: rest).map letter
  | _ => [plain word]

/-- The word after which no word is an option. -/
def endOfOptions : String := "--"

/-- The arguments in the words of a command line. -/
def ofWords : List String → List Argument
  | [] => []
  | word :: rest => if word = endOfOptions then rest.map plain else ofWord word ++ ofWords rest

end Argument

end BootManager.CommandLine
