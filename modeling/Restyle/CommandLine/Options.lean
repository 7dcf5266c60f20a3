/-!
Reading arguments: long options with their value behind an equals sign or in the next argument,
clusters of short options, and the arguments that are none. Two hyphens end the options.
-/
namespace Restyle.CommandLine

/-- An option by the name it is asked for, with its spellings. -/
structure OptionSpec where
  key : String
  spellings : List String
  takesValue : Bool
  deriving DecidableEq, Repr

def flag (key : String) (spellings : List String) : OptionSpec := ⟨key, spellings, false⟩

def valued (key : String) (spellings : List String) : OptionSpec := ⟨key, spellings, true⟩

/-- What was given: options in their order, and the other arguments. -/
structure Given where
  options : List (String × String)
  arguments : List String
  deriving DecidableEq, Repr

namespace Given

def empty : Given := ⟨[], []⟩

def has (g : Given) (key : String) : Bool := (g.options.lookup key).isSome

/-- All values of an option. -/
def all (g : Given) (key : String) : List String :=
  (g.options.filter fun o => o.1 == key).map (·.2)

/-- The last value of an option. -/
def last? (g : Given) (key : String) : Option String := (g.all key).getLast?

end Given

def bySpelling (specs : List OptionSpec) (spelling : String) : Option OptionSpec :=
  specs.find? fun o => o.spellings.contains spelling

/-- An argument's part before its first equals sign, and what stands behind that. -/
def splitValue (arg : List Char) : String × Option String :=
  match arg.span (· != '=') with
  | (name, _ :: value) => (String.ofList name, some (String.ofList value))
  | (name, []) => (String.ofList name, none)

/-- What an argument turned out to be. -/
inductive Reading where
  | done (options : List (String × String))
  /-- The last option takes the next argument as its value. -/
  | open_ (options : List (String × String)) (key : String)
  | refused
  deriving DecidableEq, Repr

/-- A long option. -/
def readLong (o : OptionSpec) (value : Option String) : Reading :=
  match o.takesValue, value with
  | true, some v => .done [(o.key, v)]
  | true, none => .open_ [] o.key
  | false, none => .done [(o.key, "")]
  | false, some _ => .refused

/-- A cluster of short options. The first one with a value takes the rest of the cluster. -/
def readShort (specs : List OptionSpec) : List Char → Reading
  | [] => .done []
  | c :: rest =>
    match bySpelling specs (String.ofList ['-', c]) with
    | none => .refused
    | some o =>
      if o.takesValue then
        if rest.isEmpty then .open_ [] o.key else .done [(o.key, String.ofList rest)]
      else
        match readShort specs rest with
        | .done options => .done ((o.key, "") :: options)
        | .open_ options key => .open_ ((o.key, "") :: options) key
        | .refused => .refused

/-- An argument that starts with a hyphen. -/
def readOption (specs : List OptionSpec) (arg : List Char) : Reading :=
  let (name, value) := splitValue arg
  match (bySpelling specs name).filter fun _ => "--".toList.isPrefixOf arg with
  | some o => readLong o value
  | none => if "--".toList.isPrefixOf arg then .refused else readShort specs (arg.drop 1)

def looksLikeOption (arg : List Char) : Bool := arg.head? == some '-' && arg.length > 1

/-- Reads arguments. Unless options may follow other arguments, the first such argument ends them.
Nothing is given if an option is unknown or lacks its value. -/
def read (specs : List OptionSpec) (mixed : Bool) : List String → Option Given
  | [] => some .empty
  | arg :: rest =>
    if arg = "--" then some { options := [], arguments := rest }
    else if looksLikeOption arg.toList then
      match readOption specs arg.toList with
      | .refused => none
      | .done options => (read specs mixed rest).map fun g =>
          { g with options := options ++ g.options }
      | .open_ options key =>
        match rest with
        | [] => none
        | value :: rest => (read specs mixed rest).map fun g =>
            { g with options := options ++ (key, value) :: g.options }
    else if mixed then
      (read specs mixed rest).map fun g => { g with arguments := arg :: g.arguments }
    else some { options := [], arguments := arg :: rest }

end Restyle.CommandLine
