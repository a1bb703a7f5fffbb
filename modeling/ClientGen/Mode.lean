/-!
The ways in which files are written.
-/

namespace ClientGen

/-- How one file gets new content. -/
inductive WriteMode where
  /-- What was there is removed, and the file is made anew. -/
  | replace
  /-- The content goes into a temporary file, which then takes the place of the file. -/
  | atomic
  deriving DecidableEq, Inhabited

/-- How rendering and writing take turns. -/
inductive Strategy where
  /-- Each file is written as soon as it is rendered. -/
  | streaming
  /-- Nothing is written before everything is rendered. -/
  | staged
  deriving DecidableEq, Inhabited

end ClientGen
