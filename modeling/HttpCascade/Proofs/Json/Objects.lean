import HttpCascade.Json.Object
import HttpCascade.Proofs.Json.Scalars

/-!
# Reading objects

Objects are read as entries of a map or as fields of a record. Both readers go from member to member
(`member_start`), with a number of steps that the length of the text bounds.

## Main results

`reads_pairs`: an object of texts is read as its entries, in their order.
`reads_members`: an object whose members are taken into a record (`Takes`), or passed over because
their names are no fields of it, is read as this record.
-/

namespace HttpCascade.Json

variable {σ α : Type} {first : Bool} {c : Cursor} {rest : Text}

/-! ### Between members -/

theorem nextKey_lead {lead others : Text} (isLead : IsLead first lead)
    (here : c.rest = lead ++ '"' :: others) : Yields (nextKey first c) true ('"' :: others) := by
  cases isLead with
  | gap isGap =>
    have skipped := skipSpace_gap isGap rfl here
    exact ⟨c.skipSpace, by simp only [nextKey, skipped]; rfl, skipped⟩
  | @comma before after isBefore isAfter =>
    have comma : c.skipSpace.rest = ',' :: (after ++ '"' :: others) :=
      skipSpace_gap isBefore rfl (by simpa using here)
    have skipped := skipSpace_gap isAfter rfl (Cursor.rest_advance_one comma)
    refine ⟨(c.skipSpace.advance 1).skipSpace, ?_, skipped⟩
    simp only [nextKey, comma, skipped]
    rfl

theorem nextKey_end {gap : Text} (first : Bool) (isGap : IsGap gap)
    (here : c.rest = gap ++ '}' :: rest) : Yields (nextKey first c) false ('}' :: rest) := by
  have skipped := skipSpace_gap isGap rfl here
  exact ⟨c.skipSpace, by simp only [nextKey, skipped], skipped⟩

theorem readColon_eq {gap : Text} (isGap : IsGap gap) (here : c.rest = gap ++ ':' :: rest) :
    ComesTo (readColon c) rest := by
  have skipped := skipSpace_gap isGap rfl here
  exact ⟨c.skipSpace.advance 1, by simp only [readColon, skipped],
    Cursor.rest_advance_one skipped⟩

/-- The key of a member is read up to the colon after it. -/
theorem member_start {lead name key before : Text} (isLead : IsLead first lead)
    (spells : SpellsText name key) (isBefore : IsGap before)
    (here : c.rest = lead ++ '"' :: (key ++ '"' :: (before ++ ':' :: rest))) :
    ∃ quote after colon, nextKey first c = .ok (true, quote) ∧
      stringBody (quote.advance 1) = .ok (name, after) ∧ readColon after = .ok colon ∧
      colon.rest = rest := by
  obtain ⟨quote, atQuote, afterQuote⟩ := nextKey_lead isLead here
  obtain ⟨after, readsKey, afterKey⟩ := stringBody_spellsText spells
    (Cursor.rest_advance_one afterQuote)
  obtain ⟨colon, readsColon, afterColon⟩ := readColon_eq isBefore afterKey
  exact ⟨quote, after, colon, atQuote, readsKey, readsColon, afterColon⟩

theorem stops_gap {gap : Text} (isGap : IsGap gap) {mark : Char}
    (isMark : mark = ',' ∨ mark = '}' ∨ mark = ']') (rest : Text) : Stops (gap ++ mark :: rest) := by
  intro c head
  cases gap with
  | nil =>
    cases head
    exact .inr isMark
  | cons _ _ =>
    cases head
    exact .inl (isGap c List.mem_cons_self)

/-- After a value comes a comma or the end of the object. -/
theorem SpellsMembers.stops {pieces : List (Text × Text)} {text : Text}
    (spells : SpellsMembers false pieces text) (rest : Text) : Stops (text ++ rest) := by
  cases spells with
  | nil isGap =>
    rw [List.append_assoc]
    exact stops_gap isGap (.inr (.inl rfl)) rest
  | cons isLead =>
    cases isLead with
    | comma isBefore =>
      simp only [List.append_assoc, List.cons_append]
      exact stops_gap isBefore (.inl rfl) _

/-- At the start of an object its members come next, and the text bounds their number. -/
theorem object_start {gap inside : Text} {pieces : List (Text × Text)} (isGap : IsGap gap)
    (spells : SpellsMembers true pieces inside)
    (here : c.rest = gap ++ ('{' :: inside ++ rest)) :
    valueStart c = .ok ('{', c.skipSpace) ∧ (c.skipSpace.advance 1).rest = inside ++ rest ∧
      pieces.length < c.skipSpace.rest.length + 1 := by
  rw [List.cons_append] at here
  obtain ⟨start, skipped⟩ := valueStart_eq isGap rfl here
  have enough : pieces.length < inside.length := spells.length_lt
  refine ⟨start, Cursor.rest_advance_one skipped, ?_⟩
  rw [skipped, List.length_cons, List.length_append]
  omega

theorem rest_afterClosing {closing : Char} (solid : Cursor.isSpace closing = false)
    (here : c.rest = closing :: rest) : (afterClosing closing c).rest = rest := by
  have skipped := skipSpace_gap isGap_nil solid here
  have closes : c.skipSpace.rest.head? = some closing := by rw [skipped, List.head?_cons]
  simp only [afterClosing, closes, if_true]
  exact Cursor.rest_advance_one skipped

/-! ### Entries -/

theorem readPairs_yields {entries pieces : List (Text × Text)} {text : Text} {steps : Nat}
    (writes : List.Forall₂ (fun entry => WritesMember (entry.1, .text entry.2)) entries pieces)
    (spells : SpellsMembers first pieces text) (enough : pieces.length < steps)
    (here : c.rest = text ++ rest) : Yields (readPairs steps first c) entries rest := by
  -- Every entry takes one step, and the step after the last one finds the end of the object.
  obtain ⟨steps, rfl⟩ := Nat.exists_eq_add_one_of_ne_zero (Nat.ne_zero_of_lt enough)
  induction writes generalizing first c text steps with
  | nil =>
    cases spells with
    | nil isGap =>
      obtain ⟨after, ends, left⟩ := nextKey_end first isGap (by simpa using here)
      exact ⟨after.advance 1, by simp only [readPairs, ends], Cursor.rest_advance_one left⟩
  | @cons entry piece _ _ writes _ ih =>
    rw [List.length_cons] at enough
    obtain ⟨steps, rfl⟩ := Nat.exists_eq_add_one_of_ne_zero (n := steps) (by omega)
    obtain ⟨name, value⟩ := entry
    obtain ⟨key, written⟩ := piece
    obtain ⟨rfl, isValue⟩ := writes
    cases spells with
    | cons isLead isKey isBefore isAfter areMembers =>
      obtain ⟨quote, key, colon, atQuote, readsKey, readsColon, left⟩ :=
        member_start isLead isKey isBefore (by simpa using here)
      obtain ⟨after, readsValue, others⟩ := reads_text isValue "a string" colon _ _ isAfter
        (areMembers.stops rest) left
      obtain ⟨last, readsRest, ends⟩ := ih areMembers others steps (by omega)
      refine ⟨last, ?_, ends⟩
      rw [readPairs]
      simp only [atQuote, readsKey, readsColon, readsValue, readsRest]

/-- An object of texts is read as its entries. -/
theorem reads_pairs {entries : List (Text × Text)} {written : Text}
    (writes : Writes (.object (entries.map fun entry => (entry.1, .text entry.2))) written) :
    Reads readPairsObject entries written := by
  cases writes with
  | object areMembers =>
    intro c gap rest isGap stops here
    obtain ⟨pieces, writes, spells⟩ := areMembers.spells
    obtain ⟨start, inside, enough⟩ := object_start isGap spells here
    simp only [readPairsObject, start, if_true]
    exact readPairs_yields (List.forall₂_map_left_iff.mp writes) spells enough inside

/-! ### Records -/

variable {r : RecordReader σ α} {state next last : σ}

/-- A member gives a value to a field that has none yet, or has a name that is no field and a value
that can be passed over. -/
inductive TakesMember (r : RecordReader σ α) (state : σ) (name written : Text) : σ → Prop
  | field {next : σ} {field : String} (isField : r.field? state name = some (field, false))
      (reads : Reads (r.readField state name) next written) : TakesMember r state name written next
  | other (noField : r.field? state name = none) (passes : Passes skip written) :
      TakesMember r state name written state

/-- The members, one after another, make the state of a record the last one. -/
inductive Takes (r : RecordReader σ α) : σ → List (Text × Text) → σ → Prop
  | nil (state : σ) : Takes r state [] state
  | cons {state next last : σ} {name written : Text} {pieces : List (Text × Text)}
      (takes : TakesMember r state name written next) (others : Takes r next pieces last) :
      Takes r state ((name, written) :: pieces) last

theorem readMembers_member {lead name key before gap written : Text}
    (takes : TakesMember r state name written next) (isLead : IsLead first lead)
    (spells : SpellsText name key) (isBefore : IsGap before) (isGap : IsGap gap)
    (stops : Stops rest) (steps : Nat)
    (here : c.rest = lead ++ '"' :: (key ++ '"' :: (before ++ ':' :: (gap ++ (written ++ rest))))) :
    ∃ after, readMembers r (steps + 1) first state c = readMembers r steps false next after ∧
      after.rest = rest := by
  obtain ⟨quote, name, colon, atQuote, readsKey, readsColon, left⟩ :=
    member_start isLead spells isBefore here
  cases takes with
  | field isField reads =>
    obtain ⟨after, readsValue, left⟩ := reads colon gap rest isGap stops left
    refine ⟨after, ?_, left⟩
    rw [readMembers]
    simp only [atQuote, readsKey, isField, readsColon, readsValue]
  | other noField passes =>
    obtain ⟨after, passesValue, left⟩ := passes colon gap rest isGap stops left
    refine ⟨after, ?_, left⟩
    rw [readMembers]
    simp only [atQuote, readsKey, noField, readsColon, passesValue]

theorem readMembers_yields {pieces : List (Text × Text)} {text : Text} {steps : Nat}
    (takes : Takes r state pieces last) (spells : SpellsMembers first pieces text)
    (enough : pieces.length < steps) (here : c.rest = text ++ rest) :
    Yields (readMembers r steps first state c) last ('}' :: rest) := by
  -- Along the members that are taken: the state after a member is the one the rest starts from.
  obtain ⟨steps, rfl⟩ := Nat.exists_eq_add_one_of_ne_zero (Nat.ne_zero_of_lt enough)
  induction takes generalizing first c text steps with
  | nil state =>
    cases spells with
    | nil isGap =>
      obtain ⟨after, ends, left⟩ := nextKey_end first isGap (by simpa using here)
      exact ⟨after, by simp only [readMembers, ends], left⟩
  | cons takes _ ih =>
    rw [List.length_cons] at enough
    obtain ⟨steps, rfl⟩ := Nat.exists_eq_add_one_of_ne_zero (n := steps) (by omega)
    cases spells with
    | cons isLead isKey isBefore isAfter areMembers =>
      obtain ⟨after, goesOn, left⟩ := readMembers_member takes isLead isKey isBefore isAfter
        (areMembers.stops rest) (steps + 1) (by simpa using here)
      rw [goesOn]
      exact ih areMembers left steps (by omega)

/-- An object whose members are taken into a record is read as this record. -/
theorem reads_members {value : α} {pieces : List (Text × Text)} {inside : Text}
    (takes : Takes r r.start pieces last) (finish : r.finish last = .ok value)
    (spells : SpellsMembers true pieces inside) :
    Reads (readRecord r) value ('{' :: inside) := by
  intro c gap rest isGap stops here
  obtain ⟨start, inside, enough⟩ := object_start isGap spells here
  obtain ⟨after, readsMembers, left⟩ := readMembers_yields takes spells enough inside
  refine ⟨afterClosing '}' after, ?_, rest_afterClosing rfl left⟩
  simp only [readRecord, start, if_true, readsMembers, finish]

/-- The members, one after another, give values to fields that have none yet, however the values are
written, and so the state of a record becomes the last one. -/
inductive Fills (r : RecordReader σ α) : σ → List (Text × Value) → σ → Prop
  | nil (state : σ) : Fills r state [] state
  | cons {state next last : σ} {name : Text} {value : Value} {members : List (Text × Value)}
      {field : String} (isField : r.field? state name = some (field, false))
      (reads : ∀ written, Writes value written → Reads (r.readField state name) next written)
      (fills : Fills r next members last) : Fills r state ((name, value) :: members) last

theorem Fills.takes {members : List (Text × Value)} {pieces : List (Text × Text)}
    (fills : Fills r state members last) (writes : List.Forall₂ WritesMember members pieces) :
    Takes r state pieces last := by
  induction fills generalizing pieces with
  | nil state =>
    cases writes
    exact .nil state
  | cons isField reads _ ih =>
    cases writes with
    | @cons _ piece _ _ isMember others =>
      obtain ⟨name, written⟩ := piece
      obtain ⟨rfl, isValue⟩ := isMember
      exact .cons (.field isField (reads _ isValue)) (ih others)

/-- An object whose members fill a record is read as this record. -/
theorem reads_record {value : α} {members : List (Text × Value)} {written : Text}
    (fills : Fills r r.start members last) (finish : r.finish last = .ok value)
    (writes : Writes (.object members) written) : Reads (readRecord r) value written := by
  cases writes with
  | object areMembers =>
    obtain ⟨pieces, writes, spells⟩ := areMembers.spells
    exact reads_members (fills.takes writes) finish spells

/-- A text of one value and perhaps white space around it is read as a whole. -/
theorem readWhole_gaps {read : Cursor → Result α} {value : α} {before written after : Text}
    (reads : Reads read value written) (isBefore : IsGap before) (isAfter : IsGap after) :
    readWhole read (before ++ (written ++ after)) = .ok value := by
  have stops : Stops after := by
    intro c head
    exact .inl (isAfter c (List.mem_of_mem_head? head))
  obtain ⟨last, readsValue, left⟩ := reads (.ofText (before ++ (written ++ after))) before after
    isBefore stops rfl
  have nothing : last.skipSpace.rest = [] := by
    rw [Cursor.rest_skipSpace, left, ← List.append_nil after, List.dropWhile_append_of_pos isAfter,
      List.dropWhile_nil]
  simp only [readWhole, readsValue, nothing, if_true]

theorem readWhole_eq {read : Cursor → Result α} {value : α} {written : Text}
    (reads : Reads read value written) : readWhole read written = .ok value := by
  have whole := readWhole_gaps reads isGap_nil isGap_nil
  rwa [List.nil_append, List.append_nil] at whole

end HttpCascade.Json
