import HttpCascade.Cascade.MemoryTree
import HttpCascade.Proofs.Cascade.Resolution

/-!
# Resolutions with more variables

A resolution that ends with a request has found a value for every name that it met, so it does not
notice variables that were added to the initial ones. At every step of the walk the variables of the
larger run have those of the smaller one as a part: what a script exports replaces the same names in
both.

## Main result

`resolve_of_larger`: with more initial variables there is the same request, after the same calls.
-/

namespace HttpCascade.Cascade

variable {w : World} {config : Config} {history : List Call} {directory : Path}
  {files : List Text} {before after larger : Variables}

/-! ### A directory -/

theorem Exports.of_larger (exported : Exports w config history directory files before after)
    (part : before.IsPartOf larger) :
    ∃ larger', Exports w config history directory files larger larger' ∧
      after.IsPartOf larger' := by
  unfold Exports at exported ⊢
  split at exported
  next listed =>
    obtain ⟨output, ran, rfl⟩ := exported
    simp only [listed, if_true]
    exact ⟨_, ⟨output, ran, rfl⟩, part.merge _⟩
  next unlisted =>
    subst exported
    simp only [unlisted, if_false]
    exact ⟨larger, rfl, part⟩

theorem HasHeaders.of_larger {headers : Headers}
    (has : HasHeaders w config history directory files before headers)
    (part : before.IsPartOf larger) : HasHeaders w config history directory files larger headers := by
  unfold HasHeaders at has ⊢
  split at has
  next listed =>
    obtain ⟨text, filled, isRead, filling, parsed⟩ := has
    rw [if_pos listed]
    exact ⟨text, filled, isRead, Template.expand_of_larger part filling, parsed⟩
  next unlisted =>
    rw [if_neg unlisted]
    exact has

theorem Contributes.of_larger {layer : Layer}
    (contributes : Contributes w config history before directory layer)
    (part : before.IsPartOf larger) :
    ∃ larger', Contributes w config history larger directory ⟨larger', layer.headers⟩ ∧
      layer.bindings.IsPartOf larger' := by
  obtain ⟨files, listing, exported, has⟩ := contributes
  -- The headers file sees what the script has exported on top of both.
  obtain ⟨larger', exported', part'⟩ := exported.of_larger part
  exact ⟨larger', ⟨files, listing, exported', has.of_larger part'⟩, part'⟩

/-! ### The walk -/

theorem Layers.of_larger {directories : List Path} {layers : List Layer}
    (isWalk : Layers w config history before directories layers) (part : before.IsPartOf larger) :
    ∃ layers', Layers w config history larger directories layers' ∧
      layers'.map Layer.headers = layers.map Layer.headers ∧
      (lastBindings before layers).IsPartOf (lastBindings larger layers') := by
  induction isWalk generalizing larger with
  | nil history before => exact ⟨[], .nil _ _, rfl, part⟩
  | cons contributes _ ih =>
    obtain ⟨larger', contributes', part'⟩ := contributes.of_larger part
    obtain ⟨layers', isWalk', sameHeaders, last⟩ := ih part'
    refine ⟨_ :: layers', .cons contributes' isWalk', ?_, last⟩
    rw [List.map_cons, List.map_cons, sameHeaders]

/-- The merged headers do not depend on the variables beside them. -/
theorem mergedHeaders_congr {base : Headers} {layers others : List Layer}
    (same : layers.map Layer.headers = others.map Layer.headers) :
    mergedHeaders base layers = mergedHeaders base others := by
  have folded (ls : List Layer) :
      mergedHeaders base ls = (ls.map Layer.headers).foldl NameMap.merge base := by
    rw [mergedHeaders, List.foldl_map]
  rw [folded, folded, same]

/-! ### The request file -/

theorem HasLeaf.of_larger {directories : List Path} {target : Path} {expandBody : Bool}
    {r : Request} (leaf : HasLeaf w config directories target before expandBody r)
    (part : before.IsPartOf larger) : HasLeaf w config directories target larger expandBody r := by
  obtain ⟨text, isRead, made⟩ := leaf
  obtain ⟨q, parsed, filling, valid⟩ := requestOf_eq_ok_iff.mp made
  exact ⟨text, isRead,
    requestOf_eq_ok_iff.mpr ⟨q, parsed, Request.expand_of_larger filling part, valid⟩⟩

/-! ### Whole resolutions -/

/-- A resolution with a request has made all calls that are planned, whatever its variables are. -/
theorem calls_of_resolve_ok {root target : Path} {initial : Variables} {expandBody : Bool}
    {r : Request} (resolved : (w.resolve config root target initial expandBody).1 = .ok r) :
    ∃ directories, Path.cascade? root target = some directories ∧
      (w.resolve config root target initial expandBody).2.calls =
        walkCalls w config [] directories ++ [.read target] := by
  have ends := resolve_ends w config root target initial expandBody
  rw [resolved] at ends
  generalize (w.resolve config root target initial expandBody).2.calls = calls at ends ⊢
  cases ends with
  | completed below isWalk leaf => exact ⟨_, below, rfl⟩

/-- More initial variables give the same request after the same calls. -/
theorem resolve_of_larger {root target : Path} {initial larger : Variables} {expandBody : Bool}
    {r : Request} (part : initial.IsPartOf larger)
    (resolved : (w.resolve config root target initial expandBody).1 = .ok r) :
    (w.resolve config root target larger expandBody).1 = .ok r ∧
      (w.resolve config root target larger expandBody).2.calls =
        (w.resolve config root target initial expandBody).2.calls := by
  obtain ⟨directories, layers, leaf, below, isWalk, hasLeaf, rfl⟩ := resolve_eq_ok_iff.mp resolved
  obtain ⟨layers', isWalk', sameHeaders, last⟩ := isWalk.of_larger part
  have resolved' : (w.resolve config root target larger expandBody).1 =
      .ok (layBeneath (mergedHeaders ∅ layers) leaf) := by
    refine resolve_eq_ok_iff.mpr
      ⟨directories, layers', leaf, below, isWalk', hasLeaf.of_larger last, ?_⟩
    rw [mergedHeaders_congr sameHeaders]
  obtain ⟨_, below₁, made₁⟩ := calls_of_resolve_ok resolved
  obtain ⟨_, below₂, made₂⟩ := calls_of_resolve_ok resolved'
  cases below₁.symm.trans below₂
  exact ⟨resolved', made₂.trans made₁.symm⟩

/-- An added variable that a script replaces, and one whose name stands in a value. -/
theorem resolve_of_larger_exported :
    let tree : MemoryTree := ⟨[("r/_headers.http", .ok "A: {{v}}"), ("r/s/_before.sh", .ok "u=2"),
      ("r/s/q", .ok "GET /{{u}}")], [], []⟩
    let initial : Variables := .ofList [("v", "{{x}}")]
    let larger : Variables := .ofList [("u", "1"), ("v", "{{x}}"), ("x", "3")]
    let r : Request := ⟨"GET", "/2", .ofList [("A", "{{x}}")], []⟩
    initial.IsPartOf larger ∧
      (tree.world.resolve {} "r" "r/s/q" initial false).1 = .ok r ∧
      (tree.world.resolve {} "r" "r/s/q" larger false).1 = .ok r ∧
      (tree.world.resolve {} "r" "r/s/q" larger false).2.calls =
        (tree.world.resolve {} "r" "r/s/q" initial false).2.calls := by
  intro tree initial larger r
  have part : initial.IsPartOf larger := by
    intro name value found
    have only : (name, value) = ("v".toList, "{{x}}".toList) := by
      have member := NameMap.get?_eq_some_iff.mp found
      exact List.mem_singleton.mp member
    cases only
    decide
  have resolved : (tree.world.resolve {} "r" "r/s/q" initial false).1 = .ok r := by
    decide +kernel
  exact ⟨part, resolved, resolve_of_larger part resolved⟩

end HttpCascade.Cascade
