/-!
# What a console shows

A console is given runs of characters. It knows those of the basic multilingual plane, and a zero
ends a run, so that no run may hold one. A text is shown run by run up to the first that holds what
it may not hold. Of several texts nothing is shown after one that was not shown in full.
-/

namespace BootManager.Firmware.Console

/-- How many characters a run has at most. -/
def runLength : Nat := 128

/-- Whether a console can show a run with a character. -/
def isShowable (c : Char) : Bool :=
  c.toNat != 0 && c.toNat < 0x10000

/-- A line starts with a carriage return and a line feed. -/
def withReturns (text : String) : List Char :=
  text.toList.flatMap fun c => if c = '\n' then ['\r', '\n'] else [c]

/-- What is shown of characters, and whether that is all of them. -/
def shown : List Char → List Char × Bool
  | [] => ([], true)
  | c :: rest =>
    let run := c :: rest.take (runLength - 1)
    if run.all isShowable then
      let (more, all) := shown (rest.drop (runLength - 1))
      (run ++ more, all)
    else ([], false)
termination_by cs => cs.length
decreasing_by simp only [List.length_drop, List.length_cons]; omega

/-- What is shown of texts that are printed one after the other. -/
def ofTexts : List String → List Char
  | [] => []
  | text :: more =>
    match shown (withReturns text) with
    | (seen, true) => seen ++ ofTexts more
    | (seen, false) => seen

end BootManager.Firmware.Console
