import HttpCascade.Cascade.MemoryTree
import HttpCascade.Proofs.Cascade.Lockstep

/-!
# What a resolution depends on

A resolution looks at nothing but the way to its target. Two worlds that answer alike there give the
same result and are asked the same, whatever else they hold (`resolve_isolated`): in a listing only
the two reserved names count, whatever stands beside them and in which order.
-/

namespace HttpCascade.Cascade

variable {config : Config} {w w' : World} {root target : Path}

/-- The worlds answer alike in every directory on the way to the target, when its turn comes, and to
the reading of the target after all of them. -/
def AlikeOnWay (config : Config) (w w' : World) (root target : Path) : Prop :=
  ∀ directories, Path.cascade? root target = some directories →
    AlikeAlong config w [] w' [] directories ∧
      w.read (walkCalls w config [] directories) target =
        w'.read (walkCalls w config [] directories) target

theorem layBeneath_empty : layBeneath ∅ = id := by
  funext r
  rw [layBeneath, NameMap.empty_merge]
  rfl

/-- Worlds that answer alike on the way to a target give the same result after the same calls. -/
theorem resolve_isolated (alike : AlikeOnWay config w w' root target) (initial : Variables)
    (expandBody : Bool) :
    (w.resolve config root target initial expandBody).1 =
        (w'.resolve config root target initial expandBody).1 ∧
      (w.resolve config root target initial expandBody).2.calls =
        (w'.resolve config root target initial expandBody).2.calls := by
  cases below : Path.cascade? root target with
  | none =>
    obtain ⟨result, made⟩ := World.resolve_of_performs (performs_outside below)
    obtain ⟨result', made'⟩ := World.resolve_of_performs (performs_outside below)
    rw [result, result', made, made']
    exact ⟨rfl, rfl⟩
  | some directories =>
    obtain ⟨along, leaf⟩ := alike directories below
    have above : Over ∅ ⟨initial, ∅⟩ ⟨initial, ∅⟩ := ⟨rfl, rfl⟩
    obtain ⟨calls, x, x', alikeResults, performs, performs'⟩ :=
      (finish_lockstep above along leaf expandBody).exists_matches
    obtain ⟨result, made⟩ := World.resolve_of_performs (performs_of_directories below performs)
    obtain ⟨result', made'⟩ := World.resolve_of_performs (performs_of_directories below performs')
    have same : x = x' := by
      rw [alikeResults.eq_map, layBeneath_empty]
      cases x' <;> rfl
    rw [result, result', made, made', same]
    exact ⟨rfl, rfl⟩

/-- Of trees, only the files in a directory count and those of its two reserved names. -/
theorem MemoryTree.alikeIn {t t' : MemoryTree} {directory : Path}
    (listing : AlikeListings config (t.list directory) (t'.list directory))
    (script : t.run (scriptOf config directory) = t'.run (scriptOf config directory))
    (headersFile : t.read (headersFileOf config directory) =
      t'.read (headersFileOf config directory)) (history history' : List Call) :
    AlikeIn config t.world history t'.world history' directory :=
  ⟨listing, fun _ _ _ => script, fun _ _ _ => headersFile⟩

/-- A directory beside the way that cannot be listed, another order and a file listed twice. -/
theorem resolve_isolated_beside :
    let tree : MemoryTree := ⟨[("r/_headers.http", .ok "A: {{v}}"), ("r/s/_before.sh", .ok "v=2"),
      ("r/s/q", .ok "GET /{{v}}")], [], []⟩
    let crowded : MemoryTree := ⟨[("r/x/_headers.http", .ok "no header"),
      ("r/s/q", .ok "GET /{{v}}"), ("r/s/_before.sh", .ok "v=2"), ("r/s/_before.sh", .ok "v=2"),
      ("r/y", .ok []), ("r/_headers.http", .ok "A: {{v}}")], [("r/x", .other "lost")],
      [("r/x/_before.sh", .error (.timeout 1 []))]⟩
    AlikeOnWay {} tree.world crowded.world "r" "r/s/q" ∧
      (crowded.world.resolve {} "r" "r/s/q" (.ofList [("v", "1")]) false).1 =
        .ok ⟨"GET", "/2", .ofList [("A", "1")], []⟩ ∧
      (crowded.world.resolve {} "r" "r/s/q" (.ofList [("v", "1")]) false).2.calls =
        [.list "r", .read "r/_headers.http", .list "r/s", .run "r/s/_before.sh",
          .read "r/s/q"] := by
  intro tree crowded
  have alike : AlikeOnWay {} tree.world crowded.world "r" "r/s/q" := by
    intro directories below
    have way : Path.cascade? "r" "r/s/q" = some (["r", "r/s"] : List Path) := by decide
    cases below.symm.trans way
    refine ⟨.of_forall fun directory member _ _ => ?_, by decide⟩
    simp only [List.mem_cons, List.not_mem_nil, or_false] at member
    rcases member with rfl | rfl
    · exact MemoryTree.alikeIn (by decide +kernel) (by decide +kernel) (by decide +kernel) _ _
    · exact MemoryTree.alikeIn (by decide +kernel) (by decide +kernel) (by decide +kernel) _ _
  obtain ⟨sameResult, sameCalls⟩ := resolve_isolated alike (.ofList [("v", "1")]) false
  rw [← sameResult, ← sameCalls]
  exact ⟨alike, by decide +kernel, by decide +kernel⟩

end HttpCascade.Cascade
