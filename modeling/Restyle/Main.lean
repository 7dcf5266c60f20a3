import Restyle.CommandLine.Run
import Std.Time.DateTime.Timestamp

/-!
The program. It reads the files that a command may work on, carries the command out, and then writes
what the command changed.
-/
namespace Restyle.Program

open CommandLine

/-- A bound for the depth of directories. -/
def maxDepth : Nat := 200

/-- Adds the directories on the way to a path. -/
def withParents (t : Tree) (p : Path) : IO Tree :=
  (List.range p.length).foldlM (fun t n => do
    let above : Path := p.take n
    let there ← ((← IO.currentDir) / above.text).isDir
    return if there && n ≠ 0 then t.put above .directory else t) t

/-- Adds what lies at a path and below it. -/
def gather : Nat → Tree → Path → IO Tree
  | 0, t, _ => pure t
  | fuel + 1, t, p => do
    let file := (← IO.currentDir) / p.text
    if ← file.isDir then
      (← file.readDir).foldlM (fun t e => gather fuel t (p ++ [e.fileName])) (t.put p .directory)
    else if ← file.pathExists then
      return t.put p (.file (← IO.FS.readBinFile file))
    else return t

def gatherAt (t : Tree) (p : Path) : IO Tree := do gather maxDepth (← withParents t p) p

/-- The texts among the arguments that may name a path. -/
def placesIn (args : List String) : List String :=
  args.flatMap fun a =>
    [a, String.ofList (a.toList.drop 2), ((splitValue a.toList).2).getD ""]

/-- The files that a command may work on. -/
def gatherAll (site : Site) (args : List String) : IO Tree := do
  let named := ((placesIn args).filter fun s => !s.isEmpty).map site.here.join
  let t ← (site.userFile :: named).foldlM gatherAt .empty
  let roots := named.filter t.isDirectory
  let t ← if roots.isEmpty then gatherAt t site.here else pure t
  let roots := if roots.isEmpty then [site.here] else roots
  (roots.flatMap (placesOf site t)).foldlM
    (fun t p => if (t.node? p).isSome then pure t else gatherAt t p) t

/-- Writes what is new or different, and removes what is gone. -/
def writeBack (old new : Tree) : IO Unit := do
  for (p, node) in new.entries do
    match node, old.node? p with
    | .directory, none => IO.FS.createDirAll p.text
    | .file bytes, some (.file before) =>
      if bytes.data != before.data then IO.FS.writeBinFile p.text bytes
    | .file bytes, _ => IO.FS.writeBinFile p.text bytes
    | _, _ => pure ()
  for (p, node) in old.entries do
    match node, new.node? p with
    | .file _, none => IO.FS.removeFile p.text
    | _, _ => pure ()

def now : IO Clock := do
  let time ← Std.Time.Timestamp.now
  return ⟨Number.nearest ((time.toNanosecondsSinceUnixEpoch.val : Rat) / 1000000000)⟩

/-- The settings file of the user. -/
def userFile : IO Path := do
  let home := Path.names ((← IO.getEnv "HOME").getD "")
  match ← IO.getEnv "SOURCELENS_HOME" with
  | some directory => return home.join directory ++ ["config.toml"]
  | none => return home ++ [".sourcelens", "config.toml"]

/-- The cells of a line, where nothing else is said. -/
def usualWidth : Nat := 80

def width : IO Nat := do
  return (((← IO.getEnv "COLUMNS").bind String.toNat?).filter (0 < ·)).getD usualWidth

end Restyle.Program

open Restyle Restyle.CommandLine Restyle.Program in
def main (args : List String) : IO UInt32 := do
  let here := Path.names (← IO.currentDir).toString
  let site : Site :=
    { here, userFile := ← userFile, toml := Toml.library, now := ← now, width := ← width }
  let old ← gatherAll site args
  let r := reply site old args
  writeBack old r.tree
  r.out.forM IO.println
  match r.stop with
  | some s => IO.eprintln s.message
  | none => pure ()
  return r.exit.toUInt32
