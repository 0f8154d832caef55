import PackageCatalog.Command.Run

/-!
# The program

With words on its command line the program carries them out.  Without any it reads a script from
standard input: a line `+ NAME` puts a file in the tree, with the lines that follow up to a line
with a single dot as its content, and every other line is a command line.  Everything lives in
memory until the script ends.
-/

namespace PackageCatalog

/-- The words of a line, which spaces separate. -/
def wordsOfLine (line : Text) : List Text :=
  (Text.pieces ' ' (Text.trim line)).filter (fun w => !w.isEmpty)

/-- The tree with a file and the directories above it. -/
def FileTree.withFile (tree : FileTree) (path content : Text) : Except FileError FileTree := do
  let name := NativeName.ofText path
  let tree ← tree.makeDirectories (Path.directory (absoluteName name))
  tree.write name (.octets (Utf8.encode content)) recentTime

/-- The surroundings of the process. -/
def surroundings : IO Surroundings := do
  let chosen ← IO.getEnv "PKGINDEX_HOME"
  let user ← IO.getEnv "HOME"
  let home : Home := ⟨chosen.map String.toList, (user.getD "/").toList⟩
  return { home, detect := Detector.byMark }

/-- A command line is carried out and its output is written; returns the exit code. -/
def runWords (s : Surroundings) (site : Site) (words : List Text) : IO (Site × UInt32) := do
  let (site, outcome) := site.run s words
  for n in outcome.notices do IO.eprintln (String.ofList n.line)
  IO.print (String.ofList outcome.output)
  match outcome.ending with
  | .failed e => IO.eprintln (String.ofList e.message)
  | _ => pure ()
  return (site, UInt32.ofNat outcome.ending.code)

/-- The lines up to a line with a single dot. -/
partial def readBody (input : IO.FS.Stream) (done : Text) : IO Text := do
  let line ← input.getLine
  if line.isEmpty || Text.trim line.toList == ['.'] then return done
  readBody input (done ++ line.toList)

/-- The rest of a script is carried out; returns the exit code of its last command. -/
partial def runScript (s : Surroundings) (input : IO.FS.Stream) (site : Site) (code : UInt32) :
    IO UInt32 := do
  let line ← input.getLine
  if line.isEmpty then return code
  match wordsOfLine line.toList with
  | [] => runScript s input site code
  | ['+'] :: name :: _ =>
    match site.tree.withFile name (← readBody input []) with
    | .ok tree => runScript s input { site with tree } code
    | .error e =>
      IO.eprintln (String.ofList e.message)
      runScript s input site 1
  | words =>
    let (site, code) ← runWords s site words
    runScript s input site code

end PackageCatalog

open PackageCatalog in
/-- The program on the words of its command line. -/
def main (words : List String) : IO UInt32 := do
  let s ← surroundings
  if words.isEmpty then runScript s (← IO.getStdin) {} 0
  else
    let (_, code) ← runWords s {} (words.map String.toList)
    return code
