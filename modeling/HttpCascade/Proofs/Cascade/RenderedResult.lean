import HttpCascade.Cascade.MemoryTree
import HttpCascade.Proofs.Cascade.Resolution
import HttpCascade.Proofs.Request.Rendering

/-!
# The text of a complete request

A complete request has the method and the header names of files that were read, and its URL was
checked after it was filled. Its URL and its header values hold whatever the variables hold, though,
and nothing looks at that for white space and line feeds. So its text has the same head again
exactly if these came to no harm (`resolved_head_survives_iff`).
-/

namespace HttpCascade.Cascade

/-! ### What the layers hold -/

variable {w : World} {config : Config}

theorem HasHeaders.writable {history : List Call} {directory : Path} {files : List Text}
    {bindings : Variables} {headers : Headers}
    (has : HasHeaders w config history directory files bindings headers) :
    ∀ header ∈ headers.entries, WritableHeader header := by
  unfold HasHeaders at has
  split at has
  · obtain ⟨text, filled, _, _, parsed⟩ := has
    exact RequestText.writable_of_parseHeaders parsed
  · rw [has]
    intro header member
    cases member

/-- The headers of a headers file are read after they were filled, so they are all writable. -/
theorem Layers.writable {history : List Call} {before : Variables} {directories : List Path}
    {layers : List Layer} (isWalk : Layers w config history before directories layers) :
    ∀ layer ∈ layers, ∀ header ∈ layer.headers.entries, WritableHeader header := by
  induction isWalk with
  | nil => simp
  | cons contributes _ ih =>
    obtain ⟨files, _, _, hasHeaders⟩ := contributes
    exact List.forall_mem_cons.mpr ⟨hasHeaders.writable, ih⟩

theorem mergedHeaders_writable {base : Headers} {layers : List Layer}
    (baseWritable : ∀ header ∈ base.entries, WritableHeader header)
    (writable : ∀ layer ∈ layers, ∀ header ∈ layer.headers.entries, WritableHeader header) :
    ∀ header ∈ (mergedHeaders base layers).entries, WritableHeader header := by
  induction layers generalizing base with
  | nil => exact baseWritable
  | cons layer rest ih =>
    obtain ⟨first, others⟩ := List.forall_mem_cons.mp writable
    refine ih (fun header member => ?_) others
    rcases NameMap.mem_of_mem_merge member with above | below
    · exact first header above
    · exact baseWritable header below

/-! ### What the request file holds -/

/-- A filled request file has the verb and the header names that were read, and a valid URL. -/
theorem head_of_requestOf {file : Path} {text : Text} {bindings : Variables} {expandBody : Bool}
    {r : Request} (made : requestOf file text bindings expandBody = .ok r) :
    r.verb?.isSome = true ∧ Url.validate r.url = .ok () ∧
      ∀ header ∈ r.headers.entries, WritableName header.1 := by
  obtain ⟨q, parsed, filling, valid⟩ := requestOf_eq_ok_iff.mp made
  obtain ⟨sameMethod, _, fills, _⟩ := Request.expand_eq_ok_iff.mp filling
  have head := RequestText.writableHead_of_parse parsed
  refine ⟨?_, valid, fun header member => ?_⟩
  · rw [Request.verb?, sameMethod]
    exact head.verb
  · -- a name that the request file lacks is not added by filling
    have present := NameMap.get?_eq_some_iff.mpr member
    cases found : q.headers.get? header.1 with
    | none => cases present.symm.trans (fills.get?_eq_none found)
    | some value => exact (head.headers _ (NameMap.get?_eq_some_iff.mp found)).name

/-! ### The complete request -/

theorem head_of_resolve {root target : Path} {initial : Variables} {expandBody : Bool} {r : Request}
    (resolved : (w.resolve config root target initial expandBody).1 = .ok r) :
    r.verb?.isSome = true ∧ Url.validate r.url = .ok () ∧
      ∀ header ∈ r.headers.entries, WritableName header.1 := by
  obtain ⟨directories, layers, leaf, _, isWalk, ⟨text, _, made⟩, rfl⟩ :=
    resolve_eq_ok_iff.mp resolved
  obtain ⟨verb, valid, names⟩ := head_of_requestOf made
  refine ⟨verb, valid, fun header member => ?_⟩
  rcases NameMap.mem_of_mem_merge member with own | inherited
  · exact names header own
  · have nothing : ∀ header ∈ (∅ : Headers).entries, WritableHeader header := by simp
    exact (mergedHeaders_writable nothing isWalk.writable header inherited).name

/-- The text of a complete request is read as a request with the same head exactly if the filled URL
is one word and every header value is trimmed and stands on one line. -/
theorem resolved_head_survives_iff {root target : Path} {initial : Variables} {expandBody : Bool}
    {r : Request} (resolved : (w.resolve config root target initial expandBody).1 = .ok r) :
    (∃ again, RequestText.parse r.render = .ok again ∧ again.method = r.method ∧
      again.url = r.url ∧ again.headers = r.headers) ↔
      r.url ≠ [] ∧ r.url.IsSolid ∧
        ∀ header ∈ r.headers.entries, header.2.trim = header.2 ∧ '\n' ∉ header.2 := by
  obtain ⟨verb, valid, names⟩ := head_of_resolve resolved
  rw [RequestText.head_survives_iff]
  constructor
  · intro head
    refine ⟨head.urlNonempty, head.urlSolid, fun header member => ?_⟩
    obtain ⟨trimmed, oneLine⟩ := (head.headers header member).value
    exact ⟨trimmed, oneLine⟩
  · rintro ⟨nonempty, solid, values⟩
    refine ⟨verb, nonempty, solid, valid, fun header member => ⟨names header member, ?_⟩⟩
    obtain ⟨trimmed, oneLine⟩ := values header member
    exact ⟨trimmed, oneLine⟩

/-- Colons and spaces inside of a value are kept, in a headers file and in the request file. -/
theorem resolved_head_survives_plain_values :
    let tree : MemoryTree :=
      ⟨[("r/_headers.http", .ok "A: {{v}}"), ("r/q", .ok "GET /{{u}}\n\nX: {{v}}")], [], []⟩
    let r : Request := ⟨"GET", "/a:b", .ofList [("A", "1 Y: 2"), ("X", "1 Y: 2")], []⟩
    (tree.world.resolve {} "r" "r/q" (.ofList [("u", "a:b"), ("v", "1 Y: 2")]) false).1 = .ok r ∧
      ∃ again, RequestText.parse r.render = .ok again ∧ again.method = r.method ∧
        again.url = r.url ∧ again.headers = r.headers := by
  intro tree r
  have resolved : (tree.world.resolve {} "r" "r/q"
      (.ofList [("u", "a:b"), ("v", "1 Y: 2")]) false).1 = .ok r := by decide
  exact ⟨resolved, (resolved_head_survives_iff resolved).mpr ⟨by decide, by decide, by decide⟩⟩

/-- A variable with a line feed makes two headers of one. -/
theorem not_every_resolved_head_survives :
    ¬ ∀ (w : World) (config : Config) (root target : Path) (initial : Variables)
      (expandBody : Bool) (r : Request),
      (w.resolve config root target initial expandBody).1 = .ok r →
        ∃ again, RequestText.parse r.render = .ok again ∧ again.method = r.method ∧
          again.url = r.url ∧ again.headers = r.headers := by
  intro all
  let tree : MemoryTree := ⟨[("r/q", .ok "GET /\n\nX: {{v}}")], [], []⟩
  let r : Request := ⟨"GET", "/", .ofList [("X", "1\nY: 2")], []⟩
  have resolved :
      (tree.world.resolve {} "r" "r/q" (.ofList [("v", "1\nY: 2")]) false).1 = .ok r := by
    decide
  obtain ⟨again, reads, _, _, headers⟩ := all _ _ _ _ _ _ _ resolved
  have readsTwo : RequestText.parse r.render =
      .ok ⟨"GET", "/", .ofList [("X", "1"), ("Y", "2")], []⟩ := by decide
  cases reads.symm.trans readsTwo
  revert headers
  decide

end HttpCascade.Cascade
