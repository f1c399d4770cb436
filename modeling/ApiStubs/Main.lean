import ApiStubs.CommandLine.Program

/-!
The command line on a disk: what the arguments lead to is looked at, the program runs on that, and
what it changed is written.
-/

namespace ApiStubs.Disk

-- Adds what is at a place of the disk.
def look (t : FileTree) (place : Place) : IO FileTree := do
  let path := "/" ++ "/".intercalate place
  try
    if ← (← IO.FS.realPath path).isDir then return t.addDirectories place
    return t.addFile place (← IO.FS.readBinFile path)
  catch _ => return t

-- Adds what a path leads through.
def follow (t : FileTree) (text : String) : IO FileTree := do
  match Path.read text with
  | .error _ => return t
  | .ok path =>
    let mut place := if path.absolute then [] else t.here
    let mut seen := t
    for name in path.parents ++ path.last.toList do
      match FileTree.enter place name with
      | .error _ => return seen
      | .ok next =>
        seen ← look seen next
        place := next
    return seen

-- The files that a run depends on.
def survey (options : Options) (t : FileTree) : IO FileTree := do
  let t ← follow t (options.config.getD defaultConfig)
  match options.settings t with
  | .error _ => return t
  | .ok settings => (options.input.toList ++ [settings.header, settings.output]).foldlM follow t

-- Writes the files that a run changed.
def save (old new : FileTree) : IO Unit := do
  for (place, content) in old.changes new do
    if let some bytes := content then
      IO.FS.writeBinFile ("/" ++ "/".intercalate place) bytes

end ApiStubs.Disk

open ApiStubs in
def main (arguments : List String) : IO UInt32 := do
  let here := ((← IO.currentDir).toString.splitOn "/").filter (· ≠ "")
  let top : FileTree := { here }
  let read := Options.read arguments
  let files ← match read with
    | .error _ => pure top
    | .ok options => Disk.survey options (top.addDirectories here)
  if let .error stop := read then
    if stop.exitCode ≠ 0 then IO.eprintln ("error: " ++ stop.message)
  let exit := runProgram arguments files
  try
    Disk.save files exit.files
  catch e =>
    IO.eprintln e
    return 1
  IO.print exit.stdout
  for event in exit.log do
    IO.eprintln event.line
  return exit.code.toUInt32
