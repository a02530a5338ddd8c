import HttpCascade.Cascade.MemoryTree
import HttpCascade.Proofs.Cascade.Resolution
import HttpCascade.Proofs.Request.Grammar
import HttpCascade.Proofs.Template.Layout
import HttpCascade.Proofs.Url.Authority

/-!
# URLs with placeholders

The URL of a request file is checked twice: as it is written, placeholders included, when the file
is read, and again when it is filled. So a placeholder may not stand everywhere: a port, say, has to
be written in digits.

## Main result

`resolve_templated_url`: where the filled URL is valid, the resolution succeeds exactly if the
written one is valid too. It is if it has no authority, as one that starts with a placeholder, and
if no placeholder stands before the end of its authority.
-/

namespace HttpCascade

/-! ### A request line alone -/

/-- After some blank lines, a line of a verb and a URL is all that the text holds. -/
structure RequestText.HoldsLine (t : Text) (blanks : List Text) (method url : Text) : Prop where
  lines : ∃ line, t.lines = blanks ++ [line] ∧ line.IsPair method url
  blank : ∀ blank ∈ blanks, blank.isBlank = true
  verb : ∃ verb : Method, Text.equalsIgnoringCase verb.name.toList method = true

theorem RequestText.HoldsLine.parse_eq {t method url : Text} {blanks : List Text}
    (holds : HoldsLine t blanks method url) :
    parse t =
      match Url.validate url with
      | .ok () => .ok (Request.bare method url)
      | .error reason => .error (.invalidUrl url (1 + blanks.length) reason) := by
  obtain ⟨⟨line, lines, pair⟩, blank, verb⟩ := holds
  exact parse_of_parts lines blank pair verb (.inl ⟨rfl, rfl, rfl⟩)

theorem RequestText.HoldsLine.isSolid {t method url : Text} {blanks : List Text}
    (holds : HoldsLine t blanks method url) : url.IsSolid := by
  obtain ⟨⟨line, _, pair⟩, _, _⟩ := holds
  exact pair.second.2

/-- Only the URL of a bare request is filled. -/
theorem Request.expand_bare {method url filled : Text} {values : Variables}
    (filling : HttpCascade.expand url values = .ok filled) (expandBody : Bool) :
    (Request.bare method url).expand values expandBody = .ok ⟨method, filled, ∅, []⟩ := by
  refine Request.expand_eq_ok_iff.mpr ⟨rfl, filling, fun name => .none, ?_⟩
  rw [Request.fillBody_eq_ok_iff]
  cases expandBody <;> rfl

/-! ### Placeholders after the authority -/

namespace Template

variable {front back filled : Text} {values : Variables}

theorem isSeparator_of_isEnding {kind : Url.SchemeKind} {c : Char}
    (ends : Url.IsEnding kind c) : IsSeparator c := by
  rcases ends with rfl | rfl | rfl | ⟨_, rfl⟩ <;> exact ⟨by decide, by decide, by decide⟩

/-- The end of an authority is a separator, so what follows it is filled by itself. -/
theorem exists_append_of_expand {ending : Char} {more : Text}
    (ends : Url.AuthorityEnds front (ending :: more)) (none : placeholderNames front = [])
    (filling : expand (front ++ ending :: more) values = .ok filled) :
    ∃ rest, filled = front ++ ending :: rest := by
  obtain ⟨_, rfl⟩ := expand_eq_ok_iff.mp filling
  cases ends with
  | intro _ _ _ ends =>
    have separates := isSeparator_of_isEnding (ends ending rfl)
    refine ⟨Template.filled values more, ?_⟩
    exact (filled_append_separator separates _ more).trans (by rw [filled_of_no_names none])

/-- A URL without placeholders up to the end of its authority is valid if it is when filled. -/
theorem validate_of_expand (ends : Url.AuthorityEnds front back)
    (none : placeholderNames front = []) (solid : (front ++ back).IsSolid)
    (filling : expand (front ++ back) values = .ok filled) (solidFilled : filled.IsSolid) :
    Url.validate (front ++ back) = Url.validate filled := by
  cases back with
  | nil =>
    -- The authority goes on to the end, so there is no placeholder at all.
    rw [List.append_nil, expand_of_no_names none] at filling
    cases filling
    rw [List.append_nil]
  | cons ending more =>
    obtain ⟨rest, rfl⟩ := exists_append_of_expand ends none filling
    exact Url.validate_append_congr ends solid solidFilled

end Template

/-! ### Resolutions -/

namespace Cascade

variable {w : World} {config : Config} {root target : Path} {initial : Variables}
  {expandBody : Bool} {directories : List Path} {layers : List Layer}

/-- After the walk it is the request file that decides. -/
theorem resolve_of_layers (below : Path.cascade? root target = some directories)
    (isWalk : Layers w config [] initial directories layers) :
    (w.resolve config root target initial expandBody).1 = (do
      let text ← (w.read (walkCalls w config [] directories) target).mapError (.filesystem target)
      let request ← requestOf target text (lastBindings initial layers) expandBody
      return layBeneath (mergedHeaders ∅ layers) request) := by
  have walks : Performs (directories.foldlM (visit w.capabilities config) ⟨initial, ∅⟩) []
      (walkCalls w config [] directories)
      (.ok ⟨lastBindings initial layers, mergedHeaders ∅ layers⟩) := isWalk.performs
  have reads := performs_readRequest (w := w) target (lastBindings initial layers) expandBody
    (walkCalls w config [] directories)
  have performs := performs_of_directories below
    (walks.bind_ok (reads.bind_quiet fun request =>
      .pure (layBeneath (mergedHeaders ∅ layers) request) _))
  rw [(World.resolve_of_performs performs).1]
  cases w.read (walkCalls w config [] directories) target <;> rfl

/-- If the walk succeeds and the file holds a request line alone, whose URL can be filled with a
valid one, the request is that of this line exactly if the URL is valid as it is written; otherwise
the line is at fault. A URL without an authority is valid as it is written, and so is one with no
placeholder up to the end of its authority. -/
theorem resolve_templated_url {text method url filled : Text} {blanks : List Text}
    (below : Path.cascade? root target = some directories)
    (isWalk : Layers w config [] initial directories layers)
    (isRead : w.read (walkCalls w config [] directories) target = .ok text)
    (holds : RequestText.HoldsLine text blanks method url)
    (filling : expand url (lastBindings initial layers) = .ok filled)
    (solid : filled.IsSolid) (valid : Url.validate filled = .ok ()) :
    ((w.resolve config root target initial expandBody).1 =
      match Url.validate url with
      | .ok () => .ok ⟨method, filled, mergedHeaders ∅ layers, []⟩
      | .error reason => .error (.parse target (.invalidUrl url (1 + blanks.length) reason))) ∧
    (¬ Url.HasAuthority url → Url.validate url = .ok ()) ∧
    (∀ front back, url = front ++ back → Url.AuthorityEnds front back →
      placeholderNames front = [] → Url.validate url = .ok ()) := by
  have solidUrl := holds.isSolid
  refine ⟨?_, Url.validate_of_no_authority solidUrl, ?_⟩
  · rw [resolve_of_layers below isWalk, isRead]
    have parsed := holds.parse_eq
    cases written : Url.validate url with
    | ok _ =>
      rw [written] at parsed
      have made : requestOf target text (lastBindings initial layers) expandBody =
          .ok ⟨method, filled, ∅, []⟩ :=
        requestOf_eq_ok_iff.mpr ⟨_, parsed, Request.expand_bare filling expandBody, valid⟩
      show (requestOf target text (lastBindings initial layers) expandBody >>= fun request =>
        pure (layBeneath (mergedHeaders ∅ layers) request)) = _
      rw [made]
      show Except.ok (Request.mk method filled (NameMap.merge _ ∅) []) = _
      rw [NameMap.merge_empty]
    | error reason =>
      rw [written] at parsed
      show (requestOf target text (lastBindings initial layers) expandBody >>= fun request =>
        pure (layBeneath (mergedHeaders ∅ layers) request)) = _
      rw [requestOf, parsed]
      rfl
  · rintro front back rfl ends none
    rw [Template.validate_of_expand ends none solidUrl filling solid]
    exact valid

/-- Placeholders in a path and in a query, behind a scheme that one slash follows, and a URL without
an authority. A script exports one of the values. -/
theorem resolve_templated_url_path_and_query :
    let tree : MemoryTree := ⟨[("r/_before.sh", .ok "id=7"), ("r/_headers.http", .ok "A: {{id}}"),
      ("r/q", .ok "\n \nput  HTTP:/h:80/{{id}}?x={{y}}\n"),
      ("r/t", .ok "GET users/{{id}}")], [], []⟩
    let initial : Variables := .ofList [("id", "0"), ("y", "a|")]
    let layers : List Layer := [⟨.ofList [("id", "7"), ("y", "a|")], .ofList [("A", "7")]⟩]
    let url : Text := "HTTP:/h:80/{{id}}?x={{y}}"
    let filled : Text := "HTTP:/h:80/7?x=a|"
    Path.cascade? "r" "r/q" = some [("r" : Path)] ∧
    Layers tree.world {} [] initial ["r"] layers ∧
    tree.world.read (walkCalls tree.world {} [] ["r"]) "r/q" =
      .ok "\n \nput  HTTP:/h:80/{{id}}?x={{y}}\n" ∧
    RequestText.HoldsLine "\n \nput  HTTP:/h:80/{{id}}?x={{y}}\n" [[], " "] "put" url ∧
    expand url (lastBindings initial layers) = .ok filled ∧
    filled.IsSolid ∧ Url.validate filled = .ok () ∧
    Url.AuthorityEnds "HTTP:/h:80" "/{{id}}?x={{y}}" ∧
    (tree.world.resolve {} "r" "r/q" initial true).1 =
      .ok ⟨"put", filled, .ofList [("A", "7")], []⟩ ∧
    ¬ Url.HasAuthority "users/{{id}}" ∧
    (tree.world.resolve {} "r" "r/t" initial true).1 =
      .ok ⟨"GET", "users/7", .ofList [("A", "7")], []⟩ := by
  intro tree initial layers url filled
  have below : Path.cascade? "r" "r/q" = some [("r" : Path)] := by decide
  have contributes : Contributes tree.world {} [] initial "r" layers[0] := by
    refine ⟨["_before.sh", "_headers.http", "q", "t"], by decide, ?_, ?_⟩
    · rw [Exports, if_pos (by decide)]
      exact ⟨⟨"id=7", []⟩, by decide, by decide⟩
    · rw [HasHeaders, if_pos (by decide)]
      exact ⟨"A: {{id}}", "A: 7", by decide, by decide, by decide⟩
  have isWalk : Layers tree.world {} [] initial ["r"] layers := .cons contributes (.nil _ _)
  have isRead : tree.world.read (walkCalls tree.world {} [] ["r"]) "r/q" =
      .ok "\n \nput  HTTP:/h:80/{{id}}?x={{y}}\n" := by decide
  have holds : RequestText.HoldsLine "\n \nput  HTTP:/h:80/{{id}}?x={{y}}\n" [[], " "] "put" url :=
    ⟨⟨"put  HTTP:/h:80/{{id}}?x={{y}}", by decide, Text.words_eq_pair_iff.mp (by decide)⟩,
      by decide, ⟨.put, by decide⟩⟩
  have filling : expand url (lastBindings initial layers) = .ok filled := by decide
  have solid : filled.IsSolid := by decide
  have valid : Url.validate filled = .ok () := by decide +kernel
  -- The authority is `h:80`, and the slash that ends it comes before both placeholders.
  have isScheme : Url.IsScheme "HTTP" := ⟨⟨'H', rfl, by decide⟩, by simp⟩
  have opens : Url.Opens (.special 80) "HTTP:/" ("h:80" ++ "/{{id}}?x={{y}}" : Text) :=
    @Url.Opens.special 80 "HTTP" "/" _ isScheme (by decide) (by simp [Url.IsSlash])
      (by simp [Url.IsSlash])
  have ends : Url.AuthorityEnds "HTTP:/h:80" "/{{id}}?x={{y}}" :=
    @Url.AuthorityEnds.intro _ [] "HTTP:/" "h:80" _ (by simp) opens (by simp [Url.IsEnding])
      (by simp [Url.IsEnding])
  have settled : (tree.world.resolve {} "r" "r/q" initial true).1 = _ ∧ _ :=
    resolve_templated_url below isWalk isRead holds filling solid valid
  obtain ⟨result, _, ended⟩ := settled
  rw [ended "HTTP:/h:80" "/{{id}}?x={{y}}" rfl ends (by decide)] at result
  have noColon : ':' ∉ ("users/{{id}}" : Text) := by decide
  have apart : ∀ a b, Url.IsSlash a → Url.IsSlash b → ¬ [a, b] <:+: ("users/{{id}}" : Text) := by
    rintro a b (rfl | rfl) (rfl | rfl) <;> decide +kernel
  have noAuthority : ¬ Url.HasAuthority "users/{{id}}" := by
    intro has
    obtain colon | ⟨a, b, first, second, inARow⟩ := has.colon_or_slashes
    · exact noColon colon
    · exact apart a b first second inARow
  have belowLocal : Path.cascade? "r" "r/t" = some [("r" : Path)] := by decide
  have isReadLocal : tree.world.read (walkCalls tree.world {} [] ["r"]) "r/t" =
      .ok "GET users/{{id}}" := by decide
  have holdsLocal : RequestText.HoldsLine "GET users/{{id}}" [] "GET" "users/{{id}}" :=
    ⟨⟨"GET users/{{id}}", by decide, Text.words_eq_pair_iff.mp (by decide)⟩, by decide,
      ⟨.get, by decide⟩⟩
  have fillingLocal : expand "users/{{id}}" (lastBindings initial layers) = .ok "users/7" := by
    decide
  have validLocal : Url.validate "users/7" = .ok () := by decide +kernel
  have settledLocal : (tree.world.resolve {} "r" "r/t" initial true).1 = _ ∧ _ :=
    resolve_templated_url belowLocal isWalk isReadLocal holdsLocal fillingLocal (by decide)
      validLocal
  obtain ⟨resultLocal, always, _⟩ := settledLocal
  rw [always noAuthority] at resultLocal
  exact ⟨below, isWalk, isRead, holds, filling, solid, valid, ends, result, noAuthority,
    resultLocal⟩

/-- A placeholder for the port is refused before it is filled. -/
theorem not_every_templated_url_resolves :
    ¬ ∀ (w : World) (config : Config) (root target : Path) (initial : Variables)
      (expandBody : Bool) (directories : List Path) (layers : List Layer)
      (text method url filled : Text) (blanks : List Text),
      Path.cascade? root target = some directories →
      Layers w config [] initial directories layers →
      w.read (walkCalls w config [] directories) target = .ok text →
      RequestText.HoldsLine text blanks method url →
      expand url (lastBindings initial layers) = .ok filled →
      filled ≠ [] → filled.IsSolid → Url.validate filled = .ok () →
        ∃ r, (w.resolve config root target initial expandBody).1 = .ok r ∧ r.url = filled := by
  intro all
  let tree : MemoryTree := ⟨[("r/q", .ok "GET http://h:{{p}}/")], [], []⟩
  let initial : Variables := .ofList [("p", "80")]
  have contributes : Contributes tree.world {} [] initial "r" ⟨initial, ∅⟩ := by
    refine ⟨["q"], by decide, ?_, ?_⟩
    · rw [Exports, if_neg (by decide)]
    · rw [HasHeaders, if_neg (by decide)]
  obtain ⟨r, resolved, _⟩ := all tree.world {} "r" "r/q" initial false ["r"] [⟨initial, ∅⟩]
    "GET http://h:{{p}}/" "GET" "http://h:{{p}}/" "http://h:80/" [] (by decide)
    (.cons contributes (.nil _ _)) (by decide)
    ⟨⟨"GET http://h:{{p}}/", by decide, Text.words_eq_pair_iff.mp (by decide)⟩,
      by decide, ⟨.get, by decide⟩⟩
    (by decide) (by decide) (by decide) (by decide +kernel)
  have refused : (tree.world.resolve {} "r" "r/q" initial false).1 =
      .error (.parse "r/q" (.invalidUrl "http://h:{{p}}/" 1 .invalidPort)) := by decide +kernel
  cases resolved.symm.trans refused

end Cascade

end HttpCascade
