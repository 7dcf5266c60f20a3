import Restyle.Element.Descriptor
import Restyle.Text.Case

/-!
The kind of an element, read off its tag name. Browsers report tag names in capitals, so a name in
capitals throughout is an element and only a mixed one with a capital first is a component.
-/
namespace Restyle.ElementKind

open Text

def ofTag (tag : String) : ElementKind :=
  if tag = "" ∨ tag = "Fragment" ∨ tag = "React.Fragment" then fragment
  else
    match tag.toList with
    | [] => fragment
    | c :: rest => if isUpper c && !allUpper (c :: rest) then component else element

end Restyle.ElementKind
