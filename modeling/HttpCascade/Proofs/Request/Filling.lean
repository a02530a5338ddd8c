import HttpCascade.Cascade.Basic
import HttpCascade.Proofs.NameMap
import HttpCascade.Proofs.Outcome
import HttpCascade.Proofs.Template.Expansion

/-!
# Filled requests

A request is filled part by part (`expand_eq_ok_iff`). Its headers are filled entry by entry, which
is the same as name by name (`fillHeaders_eq_ok_iff`), since no name stands in a map twice.
-/

namespace HttpCascade

namespace Request

/-- Every name has a value after filling if it had one that can be filled. -/
def FillsHeaders (values : Variables) (before after : Headers) : Prop :=
  ∀ name, Option.Rel (fun value filled => HttpCascade.expand value values = .ok filled)
    (before.get? name) (after.get? name)

theorem FillsHeaders.unique {values : Variables} {before after other : Headers}
    (fills : FillsHeaders values before after) (fillsOther : FillsHeaders values before other) :
    after = other := by
  apply NameMap.ext_get?
  intro name
  refine NameMap.rel_unique ?_ (fills name) (fillsOther name)
  intro value first second one two
  exact Except.ok.inj (one.symm.trans two)

theorem fillHeader_eq_ok_iff {values : Variables} {entry filled : Text × Text} :
    fillHeader values entry = .ok filled ↔
      filled.1 = entry.1 ∧ HttpCascade.expand entry.2 values = .ok filled.2 := by
  obtain ⟨name, value⟩ := filled
  unfold fillHeader
  cases HttpCascade.expand entry.2 values with
  | error e => simp
  | ok filledValue => simp [eq_comm]

theorem fillsHeaders_of_mapM {values : Variables} {before : Headers} {entries : List (Text × Text)}
    (filled : before.entries.mapM (fillHeader values) = .ok entries) :
    FillsHeaders values before (NameMap.ofList entries) := by
  have pairs := mapM_eq_ok_iff.mp filled
  simp only [fillHeader_eq_ok_iff] at pairs
  intro name
  -- Filling keeps the names, so no entry replaces another in the new map.
  have sorted := NameMap.pairwise_of_names (pairs.imp fun _ _ both => both.1) before.sorted
  rw [NameMap.get?_ofList, NameMap.lookup_reverse sorted]
  exact NameMap.lookup_rel pairs name

theorem exists_fillHeaders {values : Variables} {before : Headers}
    (fillable : ∀ name value, before.get? name = some value →
      ∃ filled, HttpCascade.expand value values = .ok filled) :
    ∃ entries, before.entries.mapM (fillHeader values) = .ok entries := by
  apply mapM_ok_of_forall
  intro entry member
  obtain ⟨filled, filling⟩ := fillable entry.1 entry.2 (NameMap.get?_eq_some_iff.mpr member)
  exact ⟨(entry.1, filled), fillHeader_eq_ok_iff.mpr ⟨rfl, filling⟩⟩

theorem FillsHeaders.fillable {values : Variables} {before after : Headers}
    (fills : FillsHeaders values before after) (name value : Text)
    (found : before.get? name = some value) :
    ∃ filled, HttpCascade.expand value values = .ok filled ∧ after.get? name = some filled := by
  have one := fills name
  rw [found] at one
  generalize after.get? name = result at one
  cases one with
  | @some _ filled filling => exact ⟨filled, filling, rfl⟩

theorem FillsHeaders.get?_eq_none {values : Variables} {before after : Headers}
    (fills : FillsHeaders values before after) {name : Text} (absent : before.get? name = none) :
    after.get? name = none := by
  have one := fills name
  rw [absent] at one
  generalize after.get? name = result at one
  cases one with
  | none => rfl

theorem fillHeaders_eq_ok_iff {values : Variables} {before after : Headers} :
    (∃ entries, before.entries.mapM (fillHeader values) = .ok entries ∧
      NameMap.ofList entries = after) ↔ FillsHeaders values before after := by
  constructor
  · rintro ⟨entries, filled, rfl⟩
    exact fillsHeaders_of_mapM filled
  · intro fills
    obtain ⟨entries, filled⟩ := exists_fillHeaders fun name value found =>
      (fills.fillable name value found).imp fun _ both => both.1
    exact ⟨entries, filled, (fillsHeaders_of_mapM filled).unique fills⟩

/-- A body is filled if that is asked for, and is kept otherwise. -/
theorem fillBody_eq_ok_iff {values : Variables} {expandBody : Bool} {body filled : Text} :
    fillBody values expandBody body = .ok filled ↔
      if expandBody then HttpCascade.expand body values = .ok filled else filled = body := by
  unfold fillBody
  cases expandBody
  · simp [eq_comm]
  · simp [mapError_eq_ok_iff]

/-- A request is filled if its URL, all its headers and its body are; its method stays. -/
theorem expand_eq_ok_iff {r filled : Request} {values : Variables} {expandBody : Bool} :
    r.expand values expandBody = .ok filled ↔
      filled.method = r.method ∧ HttpCascade.expand r.url values = .ok filled.url ∧
        FillsHeaders values r.headers filled.headers ∧
        fillBody values expandBody r.body = .ok filled.body := by
  unfold expand
  simp only [bind_eq_ok_iff, mapError_eq_ok_iff, pure_eq_ok_iff, ← fillHeaders_eq_ok_iff]
  constructor
  · rintro ⟨url, urlFilled, entries, headersFilled, body, bodyFilled, rfl⟩
    exact ⟨rfl, urlFilled, ⟨entries, headersFilled, rfl⟩, bodyFilled⟩
  · rintro ⟨sameMethod, urlFilled, ⟨entries, headersFilled, sameHeaders⟩, bodyFilled⟩
    refine ⟨_, urlFilled, entries, headersFilled, _, bodyFilled, ?_⟩
    rw [sameHeaders, ← sameMethod]

/-! ### More values -/

theorem FillsHeaders.of_larger {small large : Variables} {before after : Headers}
    (fills : FillsHeaders small before after) (part : small.IsPartOf large) :
    FillsHeaders large before after := by
  intro name
  have one := fills name
  generalize before.get? name = value at one ⊢
  generalize after.get? name = filled at one ⊢
  cases one with
  | none => exact .none
  | some filling => exact .some (Template.expand_of_larger part filling)

theorem expand_of_larger {r filled : Request} {small large : Variables} {expandBody : Bool}
    (filling : r.expand small expandBody = .ok filled) (part : small.IsPartOf large) :
    r.expand large expandBody = .ok filled := by
  obtain ⟨method, url, fills, body⟩ := expand_eq_ok_iff.mp filling
  refine expand_eq_ok_iff.mpr
    ⟨method, Template.expand_of_larger part url, fills.of_larger part, ?_⟩
  rw [fillBody_eq_ok_iff] at body ⊢
  cases expandBody with
  | false => exact body
  | true => exact Template.expand_of_larger part body

end Request

end HttpCascade
