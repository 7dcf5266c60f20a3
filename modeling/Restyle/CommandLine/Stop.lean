import Restyle.CommandLine.Misuse
import Restyle.Fault

/-!
Why a command stops before its end, or is none from the start.
-/
namespace Restyle.CommandLine

inductive Stop where
  /-- The arguments are no command, or ask for what cannot be done. -/
  | usage (misuse : Option Misuse)
  | fault (f : Fault)
  /-- A text for the console has a tag that is not in order. -/
  | badTag
  /-- A value that is no text stands where a text is printed. -/
  | notText
  deriving DecidableEq, Repr

namespace Stop

/-- The exit code of a command that stops. -/
def exit : Stop → Nat
  | usage _ => 2
  | _ => 1

def message : Stop → String
  | usage none => "These arguments are no command."
  | usage (some m) => m.message
  | fault f => f.message
  | badTag => "A tag is not in order."
  | notText => "A record of a backup holds a value that is no text."

end Stop

end Restyle.CommandLine
