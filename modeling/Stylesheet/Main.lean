import Stylesheet.CommandLine.Run

/-!
# The program

The outermost layer: it looks at the files that a call can touch, lets the run be worked out,
and then prints and writes what came of it. All decisions are made by `CommandLine.run`.
-/

namespace Stylesheet.CommandLine

/-- The name under which the system knows a place. -/
def systemName (place : Location) : String := "/" ++ "/".intercalate place

/-- Adds what the system holds at a place to a tree. -/
def observe (t : FileTree) (place : Location) : IO FileTree := do
  if place.any fun name => name.toList.contains '\x00' then return t
  let file := (← IO.currentDir) / systemName place
  if ← file.isDir then return t.addDirectories place
  if ← file.pathExists then return t.addFile place (← IO.FS.readBinFile file).toList
  return t

/-- The paths that a call can touch. -/
def touchedPaths (words : List String) : List Path :=
  match parseArguments words with
  | .ok (.work a) =>
    [configPath a, Path.ofString a.input] ++ (a.output.map Path.ofString).toList
  | _ => []

/-- The part of the system's files that a call can touch. -/
def observeAll (words : List String) : IO FileTree := do
  let t := FileTree.ofWorking (Path.ofString (← IO.currentDir).toString).parts
  (touchedPaths words).foldlM (fun t p => (t.waypoints p).foldlM observe t) t

/-- The code that tells the system how a run ended. -/
def Ending.code : Ending → UInt32
  | .returned code => code.toUInt32
  | .stopped code => code.toUInt32
  | .broken _ => 1

end Stylesheet.CommandLine

open Stylesheet.CommandLine in
/-- Runs the program with the arguments of a call. -/
def main (words : List String) : IO UInt32 := do
  let before ← observeAll words
  let o := run words before
  IO.print o.stdout
  IO.eprint o.stderr
  for (place, content) in o.files.filesNotIn before do
    IO.FS.writeBinFile (systemName place) ⟨content.toArray⟩
  match o.ending with
  | .broken b => IO.eprintln b.message
  | _ => pure ()
  return o.ending.code
