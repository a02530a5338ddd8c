import HttpCascade.Cascade.MemoryTree
import HttpCascade.Proofs.Cascade.Lockstep
import HttpCascade.Proofs.Path.Components

/-!
# Resolutions from a directory on the way

All that the directories above one leave for it are the variables and the headers. So in a world
that always answers the same, a resolution can be taken up in any directory on the way: from there
it goes on as one of its own that starts with these variables, and the headers come beneath those of
its result (`resolve_from_directory`).
-/

namespace HttpCascade.Cascade

variable {config : Config} {w : World}

/-- What the world answers does not depend on the calls before. -/
structure World.Steady (w : World) : Prop where
  list : ∀ history history' directory, w.list history directory = w.list history' directory
  read : ∀ history history' file, w.read history file = w.read history' file
  run : ∀ history history' script, w.run history script = w.run history' script

theorem MemoryTree.steady (t : MemoryTree) : t.world.Steady :=
  ⟨fun _ _ _ => rfl, fun _ _ _ => rfl, fun _ _ _ => rfl⟩

/-- A steady world answers like itself, however much it was asked before. -/
theorem World.Steady.alikeAlong (steady : w.Steady) (history history' : List Call)
    (directories : List Path) : AlikeAlong config w history w history' directories := by
  refine .of_forall fun directory _ before before' => ⟨?_, ?_, ?_⟩
  · rw [steady.list before before']
    exact .refl (fun _ => ⟨Iff.rfl, Iff.rfl⟩) _
  · exact fun _ _ _ => steady.run _ _ _
  · exact fun _ _ _ => steady.read _ _ _

/-- A walk always performs some calls. -/
theorem exists_performs_walk (w : World) (config : Config) (directories : List Path)
    (scope : Scope) (history : List Call) :
    ∃ calls result,
      Performs (directories.foldlM (visit w.capabilities config) scope) history calls result := by
  rcases walk_performs directories scope history with ⟨_, _, walks⟩ | ⟨calls, e, _, _, walks⟩
  · exact ⟨_, _, walks⟩
  · exact ⟨calls, _, walks⟩

theorem finish_split (target : Path) (expandBody : Bool) (passed rest : List Path) (scope : Scope) :
    finish w config target expandBody (passed ++ rest) scope =
      passed.foldlM (visit w.capabilities config) scope >>=
        finish w config target expandBody rest := by
  unfold finish
  rw [List.foldlM_append, bind_assoc]

/-- If the directories before one on the way leave `bindings` and `headers`, a resolution from the
root is the one from that directory with these variables, its headers over `headers`; or both fail
with the same error. The calls of the second follow those of the directories before. -/
theorem resolve_from_directory (steady : w.Steady) {root target directory : Path}
    {directories : List Path} (below : Path.cascade? root target = some directories) {k : Nat}
    (isDirectory : directories[k]? = some directory) {initial bindings : Variables}
    {headers : Headers} {journal : Journal}
    (passed : ((directories.take k).foldlM (visit w.capabilities config) ⟨initial, ∅⟩).run.run
      .empty = (.ok ⟨bindings, headers⟩, journal)) (expandBody : Bool) :
    (w.resolve config root target initial expandBody).1 =
        (w.resolve config directory target bindings expandBody).1.map
          (fun r => { r with headers := headers.merge r.headers }) ∧
      (w.resolve config root target initial expandBody).2.calls =
        journal.calls ++ (w.resolve config directory target bindings expandBody).2.calls := by
  obtain ⟨before, left, walks⟩ :=
    exists_performs_walk w config (directories.take k) ⟨initial, ∅⟩ []
  obtain ⟨rfl, rfl⟩ := walks.eq_of_run passed
  -- What is left of the first run and the whole second run go on side by side, from the same
  -- variables; the one starts over `headers`, the other over nothing.
  have above : Over headers ⟨bindings, headers⟩ ⟨bindings, ∅⟩ := ⟨rfl, rfl⟩
  obtain ⟨calls, x, x', alike, goesOn, alone⟩ := (finish_lockstep above
    (steady.alikeAlong journal.calls [] (directories.drop k))
    (steady.read _ _ target) expandBody).exists_matches
  have whole : Performs (finish w config target expandBody directories ⟨initial, ∅⟩) []
      (journal.calls ++ calls) x := by
    rw [← List.take_append_drop k directories, finish_split]
    exact walks.bind_ok goesOn
  obtain ⟨result, made⟩ := World.resolve_of_performs (performs_of_directories below whole)
  obtain ⟨result', made'⟩ := World.resolve_of_performs
    (performs_of_directories (Path.cascade?_from below isDirectory) alone)
  rw [result, result', made, made', alike.eq_map]
  exact ⟨rfl, rfl⟩

/-- A script and a headers file above, and a header that both directories set. -/
theorem resolve_from_directory_nested :
    let t : MemoryTree := ⟨[("r/_before.sh", .ok "u=2"), ("r/_headers.http", .ok "A: {{u}}\nB: 0"),
      ("r/s/_headers.http", .ok "B: {{v}}"), ("r/s/q", .ok "GET /{{u}}")], [], []⟩
    let walk := ((["r", "r/s"] : List Path).take 1).foldlM (visit t.world.capabilities {})
      ⟨.ofList [("v", "1")], ∅⟩
    let bindings : Variables := .ofList [("u", "2"), ("v", "1")]
    let headers : Headers := .ofList [("A", "2"), ("B", "0")]
    (walk.run.run .empty).1 = .ok ⟨bindings, headers⟩ ∧
      (t.world.resolve {} "r/s" "r/s/q" bindings false).1 =
        .ok ⟨"GET", "/2", .ofList [("B", "1")], []⟩ ∧
      (t.world.resolve {} "r" "r/s/q" (.ofList [("v", "1")]) false).1 =
        (t.world.resolve {} "r/s" "r/s/q" bindings false).1.map
          (fun r => { r with headers := headers.merge r.headers }) ∧
      (t.world.resolve {} "r" "r/s/q" (.ofList [("v", "1")]) false).1 =
        .ok ⟨"GET", "/2", .ofList [("A", "2"), ("B", "1")], []⟩ ∧
      (t.world.resolve {} "r" "r/s/q" (.ofList [("v", "1")]) false).2.calls =
        (walk.run.run .empty).2.calls ++
          (t.world.resolve {} "r/s" "r/s/q" bindings false).2.calls := by
  intro t walk bindings headers
  have below : Path.cascade? "r" "r/s/q" = some (["r", "r/s"] : List Path) := by decide
  have isDirectory : (["r", "r/s"] : List Path)[1]? = some ("r/s" : Path) := rfl
  have left : (walk.run.run .empty).1 = .ok ⟨bindings, headers⟩ := by decide +kernel
  have passed : walk.run.run .empty = (.ok ⟨bindings, headers⟩, (walk.run.run .empty).2) := by
    rw [← left, Prod.eta]
  have alone : (t.world.resolve {} "r/s" "r/s/q" bindings false).1 =
      .ok ⟨"GET", "/2", .ofList [("B", "1")], []⟩ := by decide +kernel
  obtain ⟨laid, calls⟩ := resolve_from_directory t.steady below isDirectory passed false
  refine ⟨left, alone, laid, laid.trans ?_, calls⟩
  rw [alone]
  decide +kernel

end HttpCascade.Cascade
