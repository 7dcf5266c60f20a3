/-!
The four kinds of project, and what source code looks like in each.
-/
namespace Restyle

inductive Framework where
  | react | vue | angular | html
  deriving DecidableEq, Repr

namespace Framework

def all : List Framework := [react, vue, angular, html]

def name : Framework → String
  | react => "react"
  | vue => "vue"
  | angular => "angular"
  | html => "html"

def ofName? (s : String) : Option Framework := all.find? (·.name == s)

/-- The files that hold markup. -/
def filePatterns : Framework → List String
  | react => ["**/*.jsx", "**/*.tsx"]
  | vue => ["**/*.vue"]
  | angular => ["**/*.component.html", "**/*.component.ts"]
  | html => ["**/*.html"]

/-- The attributes that carry classes. -/
def classAttributes : Framework → List String
  | react => ["className", "class"]
  | vue => ["class", ":class", "v-bind:class"]
  | angular => ["class", "[class]", "[ngClass]"]
  | html => ["class"]

/-- What the first characters of a comment line are. -/
def commentMarks : Framework → List String
  | react => ["//", "/*"]
  | vue => ["<!--", "//", "/*"]
  | angular => ["<!--", "//", "/*"]
  | html => ["<!--"]

theorem ofName?_name (f : Framework) : ofName? f.name = some f := by cases f <;> decide

end Framework

end Restyle
