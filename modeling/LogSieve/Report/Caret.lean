import LogSieve.Filter.Error

/-!
# Showing where a filter is wrong

The message of an error, under it the filter, and under that a caret at the error's position,
which never lies beyond the end of the filter shown. The heading and the caret may be painted.
-/

namespace LogSieve.Report

/-- The text in bold red. -/
def paint (color : Bool) (text : Text) : Text :=
  if color then "\x1b[1;31m".toList ++ text ++ "\x1b[0m".toList else text

/-- An error with the filter it was found in. -/
def renderError (color : Bool) (shown : Text) (error : FilterError) : Text :=
  let caret := List.replicate (min error.position shown.length) ' ' ++ ['^']
  paint color "Error parsing filter:".toList ++ ' ' :: error.message ++
    "\n  ".toList ++ shown ++ "\n  ".toList ++ paint color caret

end LogSieve.Report
