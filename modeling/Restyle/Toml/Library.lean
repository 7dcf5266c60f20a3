import Restyle.Toml.Reader
import Restyle.Toml.Writer

/-!
What reads and writes settings files is a package by others. Settings are read and saved with
whatever library is handed over, so that what is proved of them holds for each; the modules beside
this one stand for the one in use.
-/
namespace Restyle.Toml

/-- A library reads the text of a file as tables, and has a text for tables that are written. -/
structure Library where
  read : String → Except Defect Table
  write : Table → Except Defect String

/-- The library in use. -/
def library : Library := ⟨read, write⟩

end Restyle.Toml
