import HttpCascade.Proofs.Cascade.Resolution
import Mathlib.Data.List.Induction

/-!
# What a request is completed to

A resolution is described without its order: `Succeeds` says that every step of it can be taken, and
`IsCompletion` what the request then is. A header that the request file lacks has the value of the
nearest directory that gives it one (`mergedHeaders_isNearest`), although the headers are merged
from the root downwards. Together the two say exactly when there is a request and which one it is
(`resolve_completes`).
-/

namespace HttpCascade.Cascade

/-- The value is that of the last layer in which the name has one. -/
def IsNearest (layers : List Layer) (name : Text) : Option Text → Prop
  | some value => ∃ (j : Nat) (layer : Layer), layers[j]? = some layer ∧
      layer.headers.get? name = some value ∧
      ∀ (k : Nat) (later : Layer), j < k → layers[k]? = some later →
        later.headers.get? name = none
  | none => ∀ layer ∈ layers, layer.headers.get? name = none

/-- Every directory has its layer, the request file can be read, and all its parts can be filled
with the variables after the layers, its URL with a valid one. -/
structure Succeeds (w : World) (config : Config) (directories : List Path) (target : Path)
    (initial : Variables) (expandBody : Bool) (layers : List Layer) (q : Request) : Prop where
  walk : Layers w config [] initial directories layers
  leaf : ∃ text, w.read (walkCalls w config [] directories) target = .ok text ∧
    RequestText.parse text = .ok q
  url : ∃ url, expand q.url (lastBindings initial layers) = .ok url ∧ Url.validate url = .ok ()
  headers : ∀ name value, q.headers.get? name = some value →
    ∃ filled, expand value (lastBindings initial layers) = .ok filled
  body : expandBody = true → ∃ filled, expand q.body (lastBindings initial layers) = .ok filled

/-- The request `r` is `q` filled, with the headers of the layers beneath its own. -/
structure IsCompletion (layers : List Layer) (q : Request) (bindings : Variables)
    (expandBody : Bool) (r : Request) : Prop where
  method : r.method = q.method
  url : expand q.url bindings = .ok r.url
  urlValid : Url.validate r.url = .ok ()
  body : if expandBody then expand q.body bindings = .ok r.body else r.body = q.body
  own : ∀ name value, q.headers.get? name = some value →
    ∃ filled, expand value bindings = .ok filled ∧ r.headers.get? name = some filled
  inherited : ∀ name, q.headers.get? name = none → IsNearest layers name (r.headers.get? name)

/-! ### The nearest layer -/

theorem mergedHeaders_append (base : Headers) (layers : List Layer) (last : Layer) :
    mergedHeaders base (layers ++ [last]) = (mergedHeaders base layers).merge last.headers := by
  unfold mergedHeaders
  rw [List.foldl_append]
  rfl

/-- A layer at the end in which the name has no value changes nothing. -/
theorem IsNearest.append {layers : List Layer} {name : Text} {found : Option Text}
    (nearest : IsNearest layers name found) {last : Layer}
    (absent : last.headers.get? name = none) : IsNearest (layers ++ [last]) name found := by
  cases found with
  | none =>
    intro layer member
    rcases List.mem_append.mp member with before | atEnd
    · exact nearest layer before
    · rw [List.mem_singleton.mp atEnd]
      exact absent
  | some value =>
    obtain ⟨j, layer, isLayer, hasValue, noLater⟩ := nearest
    obtain ⟨inside, _⟩ := List.getElem?_eq_some_iff.mp isLayer
    refine ⟨j, layer, ?_, hasValue, ?_⟩
    · rw [List.getElem?_append_left inside]
      exact isLayer
    · intro k later after isLater
      -- A later layer is one of the old ones or the added one.
      by_cases within : k < layers.length
      · rw [List.getElem?_append_left within] at isLater
        exact noLater k later after isLater
      · rw [List.getElem?_append_right (by omega)] at isLater
        have member := List.mem_of_getElem? isLater
        rw [List.mem_singleton.mp member]
        exact absent

theorem isNearest_last {layers : List Layer} {name value : Text} {last : Layer}
    (present : last.headers.get? name = some value) :
    IsNearest (layers ++ [last]) name (some value) := by
  refine ⟨layers.length, last, by simp, present, ?_⟩
  intro k later after isLater
  rw [List.getElem?_eq_none (by simp; omega)] at isLater
  cases isLater

/-- Merging from the root downwards leaves the value of the nearest layer. -/
theorem mergedHeaders_isNearest (layers : List Layer) (name : Text) :
    IsNearest layers name ((mergedHeaders ∅ layers).get? name) := by
  -- The last layer counts most, so the layers are taken away from the end.
  induction layers using List.reverseRecOn with
  | nil => simp [mergedHeaders, IsNearest]
  | append_singleton layers last ih =>
    rw [mergedHeaders_append, NameMap.get?_merge]
    cases present : last.headers.get? name with
    | none => exact ih.append present
    | some value => exact isNearest_last present

theorem IsNearest.unique {layers : List Layer} {name : Text} {found other : Option Text}
    (nearest : IsNearest layers name found) (nearestOther : IsNearest layers name other) :
    found = other := by
  cases found with
  | none =>
    cases other with
    | none => rfl
    | some value =>
      obtain ⟨j, layer, isLayer, hasValue, _⟩ := nearestOther
      have absent := nearest layer (List.mem_of_getElem? isLayer)
      cases hasValue.symm.trans absent
  | some value =>
    obtain ⟨j, layer, isLayer, hasValue, noLater⟩ := nearest
    cases other with
    | none =>
      have absent := nearestOther layer (List.mem_of_getElem? isLayer)
      cases hasValue.symm.trans absent
    | some value' =>
      obtain ⟨j', layer', isLayer', hasValue', noLater'⟩ := nearestOther
      -- Of two layers with a value only the later can be the last of them.
      rcases Nat.lt_trichotomy j j' with less | rfl | greater
      · have absent := noLater j' layer' less isLayer'
        cases hasValue'.symm.trans absent
      · cases isLayer.symm.trans isLayer'
        rw [← hasValue, hasValue']
      · have absent := noLater' j layer greater isLayer
        cases hasValue.symm.trans absent

/-! ### Completions -/

theorem IsCompletion.unique {layers : List Layer} {q r other : Request} {bindings : Variables}
    {expandBody : Bool} (completion : IsCompletion layers q bindings expandBody r)
    (completionOther : IsCompletion layers q bindings expandBody other) : r = other := by
  have sameUrl : r.url = other.url :=
    Except.ok.inj (completion.url.symm.trans completionOther.url)
  have sameBody : r.body = other.body := by
    have body := completion.body
    have bodyOther := completionOther.body
    cases expandBody with
    | false => exact body.trans bodyOther.symm
    | true => exact Except.ok.inj (body.symm.trans bodyOther)
  have sameHeaders : r.headers = other.headers := by
    apply NameMap.ext_get?
    intro name
    cases own : q.headers.get? name with
    | none => exact (completion.inherited name own).unique (completionOther.inherited name own)
    | some value =>
      obtain ⟨filled, filling, found⟩ := completion.own name value own
      obtain ⟨filled', filling', found'⟩ := completionOther.own name value own
      cases filling.symm.trans filling'
      rw [found, found']
  have sameMethod : r.method = other.method := completion.method.trans completionOther.method.symm
  cases r
  cases other
  simp_all only

/-- The request file filled and laid over the layers is a completion. -/
theorem isCompletion_layBeneath {layers : List Layer} {q filled : Request} {bindings : Variables}
    {expandBody : Bool} (filling : q.expand bindings expandBody = .ok filled)
    (valid : Url.validate filled.url = .ok ()) :
    IsCompletion layers q bindings expandBody (layBeneath (mergedHeaders ∅ layers) filled) := by
  obtain ⟨sameMethod, url, fills, body⟩ := Request.expand_eq_ok_iff.mp filling
  have lookUp (name : Text) : (layBeneath (mergedHeaders ∅ layers) filled).headers.get? name =
      (filled.headers.get? name).or ((mergedHeaders ∅ layers).get? name) :=
    NameMap.get?_merge _ _ name
  refine ⟨sameMethod, url, valid, Request.fillBody_eq_ok_iff.mp body, ?_, ?_⟩
  · intro name value found
    obtain ⟨filledValue, filling, filledFound⟩ := fills.fillable name value found
    refine ⟨filledValue, filling, ?_⟩
    rw [lookUp, filledFound]
    rfl
  · intro name absent
    rw [lookUp, fills.get?_eq_none absent]
    exact mergedHeaders_isNearest layers name

section

variable {w : World} {config : Config} {directories : List Path} {target : Path}
  {initial : Variables} {expandBody : Bool} {layers : List Layer}

/-- If every step can be taken, the request file can be filled. -/
theorem Succeeds.exists_filled {q : Request}
    (succeeds : Succeeds w config directories target initial expandBody layers q) :
    ∃ filled, q.expand (lastBindings initial layers) expandBody = .ok filled ∧
      Url.validate filled.url = .ok () := by
  obtain ⟨url, urlFilled, valid⟩ := succeeds.url
  obtain ⟨entries, headersFilled⟩ := Request.exists_fillHeaders succeeds.headers
  have fills := Request.fillsHeaders_of_mapM headersFilled
  have body : ∃ body,
      Request.fillBody (lastBindings initial layers) expandBody q.body = .ok body := by
    simp only [Request.fillBody_eq_ok_iff]
    cases expandBody with
    | false => exact ⟨q.body, rfl⟩
    | true => exact succeeds.body rfl
  obtain ⟨body, bodyFilled⟩ := body
  refine ⟨⟨q.method, url, NameMap.ofList entries, body⟩, ?_, valid⟩
  exact Request.expand_eq_ok_iff.mpr ⟨rfl, urlFilled, fills, bodyFilled⟩

theorem Succeeds.exists_leaf {q : Request}
    (succeeds : Succeeds w config directories target initial expandBody layers q) :
    ∃ leaf, HasLeaf w config directories target (lastBindings initial layers) expandBody leaf ∧
      IsCompletion layers q (lastBindings initial layers) expandBody
        (layBeneath (mergedHeaders ∅ layers) leaf) := by
  obtain ⟨text, isRead, parsed⟩ := succeeds.leaf
  obtain ⟨filled, filling, valid⟩ := succeeds.exists_filled
  have made : requestOf target text (lastBindings initial layers) expandBody = .ok filled :=
    requestOf_eq_ok_iff.mpr ⟨q, parsed, filling, valid⟩
  exact ⟨filled, ⟨text, isRead, made⟩, isCompletion_layBeneath filling valid⟩

/-- If the request file was filled, every step was taken. -/
theorem HasLeaf.exists_request {leaf : Request}
    (isWalk : Layers w config [] initial directories layers)
    (hasLeaf : HasLeaf w config directories target (lastBindings initial layers) expandBody leaf) :
    ∃ q, Succeeds w config directories target initial expandBody layers q ∧
      IsCompletion layers q (lastBindings initial layers) expandBody
        (layBeneath (mergedHeaders ∅ layers) leaf) := by
  obtain ⟨text, isRead, made⟩ := hasLeaf
  obtain ⟨q, parsed, filling, valid⟩ := requestOf_eq_ok_iff.mp made
  obtain ⟨_, url, fills, body⟩ := Request.expand_eq_ok_iff.mp filling
  refine ⟨q, ⟨isWalk, ⟨text, isRead, parsed⟩, ⟨_, url, valid⟩, ?_, ?_⟩,
    isCompletion_layBeneath filling valid⟩
  · intro name value found
    exact (fills.fillable name value found).imp fun _ both => both.1
  · rintro rfl
    exact ⟨_, Request.fillBody_eq_ok_iff.mp body⟩

end

/-- A resolution has a request if and only if every step of its definition succeeds, and the request
is then the completion that is defined. -/
theorem resolve_completes (w : World) (config : Config) (root target : Path) (initial : Variables)
    (expandBody : Bool) :
    ((∃ r, (w.resolve config root target initial expandBody).1 = .ok r) ↔
      ∃ directories layers q, Path.cascade? root target = some directories ∧
        Succeeds w config directories target initial expandBody layers q) ∧
    ∀ r, (w.resolve config root target initial expandBody).1 = .ok r ↔
      ∃ directories layers q, Path.cascade? root target = some directories ∧
        Succeeds w config directories target initial expandBody layers q ∧
        IsCompletion layers q (lastBindings initial layers) expandBody r := by
  constructor
  · constructor
    · rintro ⟨r, resolved⟩
      obtain ⟨directories, layers, leaf, below, isWalk, hasLeaf, _⟩ := resolve_eq_ok_iff.mp resolved
      obtain ⟨q, succeeds, _⟩ := hasLeaf.exists_request isWalk
      exact ⟨directories, layers, q, below, succeeds⟩
    · rintro ⟨directories, layers, q, below, succeeds⟩
      obtain ⟨leaf, hasLeaf, _⟩ := succeeds.exists_leaf
      exact ⟨_, resolve_eq_ok_iff.mpr
        ⟨directories, layers, leaf, below, succeeds.walk, hasLeaf, rfl⟩⟩
  · intro r
    rw [resolve_eq_ok_iff]
    constructor
    · rintro ⟨directories, layers, leaf, below, isWalk, hasLeaf, rfl⟩
      obtain ⟨q, succeeds, completion⟩ := hasLeaf.exists_request isWalk
      exact ⟨directories, layers, q, below, succeeds, completion⟩
    · rintro ⟨directories, layers, q, below, succeeds, completion⟩
      -- The steps lead to some completion, and there is only one.
      obtain ⟨leaf, hasLeaf, reached⟩ := succeeds.exists_leaf
      exact ⟨directories, layers, leaf, below, succeeds.walk, hasLeaf, completion.unique reached⟩

end HttpCascade.Cascade
