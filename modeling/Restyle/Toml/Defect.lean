/-!
What can be wrong with settings files and with values that are to be written to one. The modules
here stand for a package by others, the library that reads and writes settings files; they do what
it does, also where that is not what the rules for such files say.
-/
namespace Restyle.Toml

inductive Defect where
  /-- The text breaks the rules. It is then no settings file. -/
  | malformed
  /-- A part is empty where something has to stand. -/
  | cutOff
  /-- A way leads through a value that is no table. -/
  | notTable
  /-- A text over several lines has an empty key. -/
  | unnamed
  /-- A number is larger than what it stands for can be. -/
  | tooLarge
  /-- Lists and tables lie too deep in each other. -/
  | tooDeep
  /-- An offset from universal time is a day or more. -/
  | badOffset
  deriving DecidableEq, Repr

/-- What is said of values that have no text. Other defects are not told apart by words. -/
def Defect.message : Defect → String
  | badOffset =>
    "offset must be a timedelta strictly between -timedelta(hours=24) and timedelta(hours=24)."
  | _ => ""

end Restyle.Toml
