import HttpCascade.Proofs.Request.Filling
import HttpCascade.Proofs.Template.Filling

/-!
# The parts of a request in the order of filling

A request is filled part by part: its URL, its header values in name order, and its body if that is
asked for. It can be filled exactly if each part can, and otherwise the first part that cannot is
named, with all the names that lack a value there (`request_is_filled_in_order`).
-/

namespace HttpCascade.Request

variable {r : Request} {values : Variables} {expandBody : Bool}

def headerPart (header : Text × Text) : ExpansionField × Text := (.header header.1, header.2)

/-- What is filled, with its name, in the order of filling. -/
def parts (r : Request) (expandBody : Bool) : List (ExpansionField × Text) :=
  (.url, r.url) :: (r.headers.entries.map headerPart ++
    if expandBody then [(.body, r.body)] else [])

/-- Every placeholder of the text has a value. -/
def IsDefined (values : Variables) (text : Text) : Prop :=
  ∀ name ∈ placeholderNames text, values.contains name = true

theorem isDefined_iff {text : Text} :
    IsDefined values text ↔ ∃ filled, HttpCascade.expand text values = .ok filled :=
  Template.exists_expand_iff.symm

/-! ### Filled requests -/

theorem contains_of_fillsHeaders {before after : Headers} (fills : FillsHeaders values before after)
    (name : Text) : after.contains name = before.contains name := by
  rw [NameMap.contains, NameMap.contains]
  cases found : before.get? name with
  | none => rw [fills.get?_eq_none found]
  | some value =>
    obtain ⟨_, _, filled⟩ := fills.fillable name value found
    rw [filled]
    rfl

theorem exists_fillBody_iff {body : Text} :
    (∃ filled, fillBody values expandBody body = .ok filled) ↔
      (expandBody = true → IsDefined values body) := by
  simp only [fillBody_eq_ok_iff, isDefined_iff]
  cases expandBody <;> simp

/-- A request can be filled exactly if all its parts can. -/
theorem exists_expand_iff_parts :
    (∃ filled, r.expand values expandBody = .ok filled) ↔
      ∀ part ∈ r.parts expandBody, IsDefined values part.2 := by
  let bodyPart : List (ExpansionField × Text) := if expandBody then [(.body, r.body)] else []
  have body : (∀ part ∈ bodyPart, IsDefined values part.2) ↔
      (expandBody = true → IsDefined values r.body) := by
    cases expandBody <;> simp [bodyPart]
  rw [parts, List.forall_mem_cons, List.forall_mem_append, List.forall_mem_map, body,
    ← exists_fillBody_iff]
  constructor
  · rintro ⟨filled, filling⟩
    obtain ⟨_, url, headers, filledBody⟩ := expand_eq_ok_iff.mp filling
    refine ⟨isDefined_iff.mpr ⟨_, url⟩, fun header member => ?_, _, filledBody⟩
    obtain ⟨value, isFilled, _⟩ :=
      headers.fillable header.1 header.2 (NameMap.get?_eq_some_iff.mpr member)
    exact isDefined_iff.mpr ⟨value, isFilled⟩
  · rintro ⟨url, headers, filledBody, isFilledBody⟩
    obtain ⟨filledUrl, isFilledUrl⟩ := isDefined_iff.mp url
    have fillable : ∀ name value, r.headers.get? name = some value →
        ∃ filled, HttpCascade.expand value values = .ok filled := fun name value found =>
      isDefined_iff.mp (headers (name, value) (NameMap.get?_eq_some_iff.mp found))
    obtain ⟨entries, isFilled⟩ := exists_fillHeaders fillable
    exact ⟨⟨r.method, filledUrl, .ofList entries, filledBody⟩,
      expand_eq_ok_iff.mpr ⟨rfl, isFilledUrl, fillsHeaders_of_mapM isFilled, isFilledBody⟩⟩

/-! ### The part at fault -/

theorem fillHeader_eq_error_iff {entry : Text × Text} {field : ExpansionField}
    {e : ExpansionError} :
    fillHeader values entry = .error (field, e) ↔
      field = .header entry.1 ∧ HttpCascade.expand entry.2 values = .error e := by
  unfold fillHeader
  cases HttpCascade.expand entry.2 values <;> simp [eq_comm]

theorem fillBody_eq_error {body : Text} {field : ExpansionField} {e : ExpansionError}
    (failed : fillBody values expandBody body = .error (field, e)) :
    expandBody = true ∧ field = .body ∧ HttpCascade.expand body values = .error e := by
  unfold fillBody at failed
  split at failed
  next asked =>
    obtain ⟨cause, fails, same⟩ := mapError_eq_error_iff.mp failed
    cases same
    exact ⟨asked, rfl, fails⟩
  next => cases failed

/-- A request that cannot be filled fails at a part after others that can be. -/
theorem expand_eq_error {field : ExpansionField} {e : ExpansionError}
    (failed : r.expand values expandBody = .error (field, e)) :
    ∃ before text after, r.parts expandBody = before ++ (field, text) :: after ∧
      (∀ part ∈ before, IsDefined values part.2) ∧
      HttpCascade.expand text values = .error e := by
  -- The three stages in turn: whichever fails, those before it went through.
  unfold expand at failed
  rw [bind_eq_error_iff, mapError_eq_error_iff] at failed
  rcases failed with ⟨cause, fails, same⟩ | ⟨url, urlFilled, failed⟩
  · cases same
    exact ⟨[], r.url, _, rfl, by simp, fails⟩
  have urlDefined : IsDefined values r.url :=
    isDefined_iff.mpr ⟨url, mapError_eq_ok_iff.mp urlFilled⟩
  rw [bind_eq_error_iff] at failed
  rcases failed with fails | ⟨entries, headersFilled, failed⟩
  · obtain ⟨front, header, rest, cut, each, fails⟩ := mapM_eq_error_iff.mp fails
    obtain ⟨rfl, lacking⟩ := fillHeader_eq_error_iff.mp fails
    refine ⟨(.url, r.url) :: front.map headerPart, header.2,
      rest.map headerPart ++ (if expandBody then [(.body, r.body)] else []), ?_, ?_, lacking⟩
    · rw [parts, cut, List.map_append, List.map_cons, List.append_assoc]
      rfl
    · rw [List.forall_mem_cons, List.forall_mem_map]
      refine ⟨urlDefined, fun other member => ?_⟩
      obtain ⟨filled, isFilled⟩ := each other member
      exact isDefined_iff.mpr ⟨filled.2, (fillHeader_eq_ok_iff.mp isFilled).2⟩
  · rw [bind_eq_error_iff] at failed
    rcases failed with fails | ⟨_, _, fails⟩
    · obtain ⟨rfl, rfl, lacking⟩ := fillBody_eq_error fails
      refine ⟨(.url, r.url) :: r.headers.entries.map headerPart, r.body, [], rfl, ?_, lacking⟩
      rw [List.forall_mem_cons, List.forall_mem_map]
      refine ⟨urlDefined, fun header member => ?_⟩
      obtain ⟨value, isFilled, _⟩ := (fillsHeaders_of_mapM headersFilled).fillable header.1 header.2
        (NameMap.get?_eq_some_iff.mpr member)
      exact isDefined_iff.mpr ⟨value, isFilled⟩
    · cases fails

/-- A request can be filled exactly if every placeholder of every part has a value. Then each part
is filled on its own, the method and the names of the headers stay, and so does the body if it is no
part. Otherwise the first part with a placeholder that has no value is named, with all such
placeholders. -/
theorem request_is_filled_in_order (r : Request) (values : Variables) (expandBody : Bool) :
    ((∃ filled, r.expand values expandBody = .ok filled) ↔
      ∀ part ∈ r.parts expandBody, IsDefined values part.2) ∧
    (∀ filled, r.expand values expandBody = .ok filled →
      filled.method = r.method ∧
      (∀ name, filled.headers.contains name = r.headers.contains name) ∧
      HttpCascade.expand r.url values = .ok filled.url ∧
      FillsHeaders values r.headers filled.headers ∧
      if expandBody then HttpCascade.expand r.body values = .ok filled.body
      else filled.body = r.body) ∧
    ∀ field e, r.expand values expandBody = .error (field, e) →
      ∃ before text after, r.parts expandBody = before ++ (field, text) :: after ∧
        (∀ part ∈ before, IsDefined values part.2) ∧ ¬ IsDefined values text ∧
        e.missing = (placeholderNames text).filter fun name => !values.contains name := by
  refine ⟨exists_expand_iff_parts, fun filled filling => ?_, fun field e failed => ?_⟩
  · obtain ⟨method, url, headers, body⟩ := expand_eq_ok_iff.mp filling
    exact ⟨method, contains_of_fillsHeaders headers, url, headers, fillBody_eq_ok_iff.mp body⟩
  · obtain ⟨before, text, after, cut, defined, fails⟩ := expand_eq_error failed
    refine ⟨before, text, after, cut, defined, fun isDefined => ?_,
      Template.missing_of_expand fails⟩
    obtain ⟨filled, isFilled⟩ := isDefined_iff.mp isDefined
    cases fails.symm.trans isFilled

/-- Headers come in the order of their names, before the body and after the URL. -/
example : (Request.expand ⟨"GET", "{{u}}", .ofList [("b", "{{y}}{{x}}{{y}}"), ("a", "{{u}}")],
    "{{z}}"⟩ (.ofList [("u", "/")]) true) =
      .error (.header "b", ⟨["y".toList, "x".toList], "{{y}}{{x}}{{y}}"⟩) := by
  decide +kernel

end HttpCascade.Request
