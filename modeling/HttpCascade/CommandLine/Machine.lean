import HttpCascade.CommandLine.Build
import HttpCascade.Files.Machine

/-!
# The program on a machine

A machine has the directories and the programs that scripts expect, and the whole program runs on it
as a function from one machine to another.
-/

namespace HttpCascade

namespace Place

/-- The path of a place. -/
def path (p : Place) : Path := Path.ofComponents (.root :: p.map .normal)

end Place

namespace Disk

/-- A disk with programs and devices and nothing else. -/
def standard : Disk :=
  let bin : Place := ["usr".toList, "bin".toList]
  let programs := Shell.Utility.names.foldl (fun (d : Disk) name =>
    d.plant [] (bin ++ [name.toList]) (.file (Shell.bytesOf (Shell.Utility.codeOf name)) true)) Disk.empty
  let linked := programs.plant [] ["bin".toList] (.link "usr/bin")
  let devices := (linked.plant [] ["dev".toList, "null".toList] (.device .null)).plant []
    ["dev".toList, "full".toList] (.device .full)
  (devices.plant [] ["tmp".toList] .directory).plant [] ["etc".toList, "passwd".toList]
    (.file (Utf8.encode "root:x:0:0:root:/root:/bin/sh\n".toList) false)

end Disk

namespace Machine

/-- The machine as a system, seen from a directory. -/
def system (here : Place) (environment : List (Text × Bytes)) : System (StateM Machine) where
  files := files here
  directory := Place.path here
  environment
  readInput := modifyGet fun m => (m.input, { m with input := [] })
  writeOutput bytes := modify fun m => { m with output := m.output ++ bytes }
  writeErrors bytes := modify fun m => { m with errors := m.errors ++ bytes }
  log := log

/-- Runs the program with arguments; gives its status and the machine afterwards. -/
def runProgram (m : Machine) (here : Place) (environment : List (Text × Bytes))
    (arguments : List Text) : Nat × Machine :=
  (CommandLine.run (system here environment) arguments).run m

end Machine

end HttpCascade
