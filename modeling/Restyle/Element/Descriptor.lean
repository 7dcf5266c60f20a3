import Restyle.Text.Blank

/-!
What is known of a rendered element: its tag, id, classes and text.
-/
namespace Restyle

structure Descriptor where
  tag : String
  id : Option String
  classes : Option String
  text : Option String
  deriving DecidableEq, Repr

/-- What a tag name stands for in source code. -/
inductive ElementKind where
  | component | element | fragment
  deriving DecidableEq, Repr

namespace ElementKind

def name : ElementKind → String
  | component => "component"
  | element => "element"
  | fragment => "fragment"

end ElementKind

namespace Descriptor

/-- The classes one by one. -/
def classWords (d : Descriptor) : List (List Char) := Text.words (d.classes.getD "").toList

end Descriptor

end Restyle
