/-!
# Colours

A colour is written as a sequence of codes before a text and a reset after it.  Resets inside the text
are followed by the colour again.
-/

namespace Groundplan

/-- A colour with a weight, as its codes. -/
abbrev Ink := List String

namespace Ink

/-- Bold bright white. -/
def title : Ink := ["1", "97"]

/-- Dimmed. -/
def faint : Ink := ["2"]

/-- Bright blue. -/
def rule : Ink := ["94"]

/-- Bold bright cyan. -/
def heading : Ink := ["1", "96"]

/-- Bold green. -/
def good : Ink := ["1", "32"]

/-- Bold red. -/
def bad : Ink := ["1", "31"]

/-- The sequence that starts a colour. -/
def start (ink : Ink) : List Char := '\x1b' :: '[' :: (";".intercalate ink).toList ++ ['m']

/-- The sequence that ends every colour. -/
def reset : List Char := ['\x1b', '[', '0', 'm']

/-- The text with a colour again after each reset inside. -/
def resume (ink : Ink) : List Char → List Char
  | '\x1b' :: '[' :: '0' :: 'm' :: rest => reset ++ ink.start ++ resume ink rest
  | c :: rest => c :: resume ink rest
  | [] => []

/-- The text in a colour, or as it is. -/
def paint (colored : Bool) (ink : Ink) (text : String) : String :=
  if colored then String.ofList (ink.start ++ ink.resume text.toList ++ reset) else text

end Ink
end Groundplan
