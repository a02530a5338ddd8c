import HttpCascade.Proofs.Text.Lines
import HttpCascade.Proofs.Text.Trim
import Mathlib.Data.List.Forall2

/-!
# Line endings

A text whose line feeds get a carriage return in front of them has the same lines
(`lines_withCrLf`), unless one of them had its carriage return already. Where a text got some of
these carriage returns and not others (`Returned`), a line may keep a stray one at its end; it is
white space, so readers that trim do not notice it (`MayReturn.trim_eq`).
-/

namespace HttpCascade.Text

/-- The text with a carriage return put in front of every line feed. -/
def withCrLf (t : Text) : Text := t.flatMap fun c => if c = '\n' then ['\r', '\n'] else [c]

/-- The second text is the first with other line endings: all of the first are line feeds alone. -/
structure SameButEndings (t t' : Text) : Prop where
  lineFeeds : ¬ ['\r', '\n'] <:+: t
  withReturns : t' = t.withCrLf

/-- The second text is the first with a carriage return put in front of some of its line feeds. -/
inductive Returned : Text → Text → Prop
  | nil : Returned [] []
  | same (c : Char) {t t'} : Returned t t' → Returned (c :: t) (c :: t')
  | added {t t'} : Returned t t' → Returned ('\n' :: t) ('\r' :: '\n' :: t')

/-- The second line is the first, or the first with a carriage return at its end. -/
def MayReturn (l l' : Text) : Prop := l' = l ∨ l' = l ++ ['\r']

/-! ### All endings -/

theorem withCrLf_of_lf_not_mem {t : Text} (free : '\n' ∉ t) : withCrLf t = t := by
  induction t with
  | nil => rfl
  | cons c rest ih =>
    have notLf : c ≠ '\n' := fun same => free (by simp [same])
    have unchanged := ih fun member => free (by simp [member])
    rw [withCrLf] at unchanged
    rw [withCrLf, List.flatMap_cons, unchanged, if_neg notLf, List.singleton_append]

theorem withCrLf_append_lf {piece : Text} (rest : Text) (free : '\n' ∉ piece) :
    withCrLf (piece ++ '\n' :: rest) = piece ++ '\r' :: '\n' :: withCrLf rest := by
  have before := withCrLf_of_lf_not_mem free
  rw [withCrLf] at before
  rw [withCrLf, List.flatMap_append, before]
  rfl

theorem dropCr_append_cr (t : Text) : dropCr (t ++ ['\r']) = t := by simp [dropCr]

/-- The two kinds of ending give the same lines. -/
theorem lines_withCrLf {t : Text} (lineFeeds : ¬ ['\r', '\n'] <:+: t) :
    lines (withCrLf t) = lines t := by
  induction t using lineInduction with
  | last t free => rw [withCrLf_of_lf_not_mem free]
  | line piece rest free ih =>
    have lineFeedsRest : ¬ ['\r', '\n'] <:+: rest := fun inside =>
      lineFeeds (inside.trans ⟨piece ++ ['\n'], [], by simp⟩)
    have notReturned : piece.getLast? ≠ some '\r' := by
      intro returned
      obtain ⟨front, rfl⟩ := List.getLast?_eq_some_iff.mp returned
      exact lineFeeds ⟨front, rest, by simp⟩
    have freeReturned : '\n' ∉ piece ++ ['\r'] := by simpa using free
    -- The added carriage return is the last character of its piece, and the only one there.
    have regrouped : withCrLf (piece ++ '\n' :: rest) =
        (piece ++ ['\r']) ++ '\n' :: withCrLf rest := by
      rw [withCrLf_append_lf rest free, List.append_assoc]
      rfl
    rw [regrouped, lines_append_lf _ freeReturned, lines_append_lf rest free, dropCr_append_cr,
      dropCr_eq_self_iff.mpr notReturned, ih lineFeedsRest]

theorem SameButEndings.lines_eq {t t' : Text} (same : SameButEndings t t') : lines t' = lines t := by
  rw [same.withReturns, lines_withCrLf same.lineFeeds]

/-! ### Some endings -/

theorem Returned.append_left {t t' : Text} (returned : Returned t t') (before : Text) :
    Returned (before ++ t) (before ++ t') := by
  induction before with
  | nil => exact returned
  | cons c rest ih => exact .same c ih

/-- Without a line feed nothing is added. -/
theorem Returned.eq_of_lf_not_mem {t t' : Text} (returned : Returned t t') (free : '\n' ∉ t) :
    t' = t := by
  induction returned with
  | nil => rfl
  | same c _ ih => rw [ih fun member => free (by simp [member])]
  | added _ _ => exact absurd List.mem_cons_self free

theorem Returned.of_append_lf {piece rest whole : Text}
    (returned : Returned (piece ++ '\n' :: rest) whole) (free : '\n' ∉ piece) :
    ∃ piece' rest', whole = piece' ++ '\n' :: rest' ∧ MayReturn piece piece' ∧
      Returned rest rest' := by
  -- Up to the line feed both texts are the same, for only a line feed has something added to it.
  induction piece generalizing whole with
  | nil =>
    cases returned with
    | same _ later => exact ⟨[], _, rfl, .inl rfl, later⟩
    | added later => exact ⟨['\r'], _, rfl, .inr rfl, later⟩
  | cons c more ih =>
    cases returned with
    | same _ later =>
      obtain ⟨piece', rest', rfl, mayReturn, returnedRest⟩ :=
        ih later fun member => free (by simp [member])
      refine ⟨c :: piece', rest', rfl, ?_, returnedRest⟩
      rcases mayReturn with rfl | rfl
      · exact .inl rfl
      · exact .inr rfl
    | added _ => exact absurd List.mem_cons_self free

theorem MayReturn.lf_not_mem {l l' : Text} (mayReturn : MayReturn l l') (free : '\n' ∉ l) :
    '\n' ∉ l' := by
  rcases mayReturn with rfl | rfl
  · exact free
  · simpa using free

/-- One carriage return belongs to the ending; another one before it stays. -/
theorem MayReturn.dropCr {l l' : Text} (mayReturn : MayReturn l l') :
    MayReturn (dropCr l) (dropCr l') := by
  rcases mayReturn with rfl | rfl
  · exact .inl rfl
  · rw [dropCr_append_cr, Text.dropCr]
    split
    next returned =>
      obtain ⟨front, rfl⟩ := List.getLast?_eq_some_iff.mp returned
      exact .inr (by simp)
    next => exact .inl rfl

theorem Returned.lines {t t' : Text} (returned : Returned t t') :
    List.Forall₂ MayReturn (lines t) (lines t') := by
  induction t using lineInduction generalizing t' with
  | last t free =>
    rw [returned.eq_of_lf_not_mem free]
    exact List.forall₂_same.mpr fun _ _ => .inl rfl
  | line piece rest free ih =>
    obtain ⟨piece', rest', rfl, mayReturn, returnedRest⟩ := returned.of_append_lf free
    rw [lines_append_lf rest free, lines_append_lf rest' (mayReturn.lf_not_mem free)]
    exact .cons mayReturn.dropCr (ih returnedRest)

/-! ### A stray carriage return -/

theorem MayReturn.isBlank_eq {l l' : Text} (mayReturn : MayReturn l l') :
    l'.isBlank = l.isBlank := by
  rcases mayReturn with rfl | rfl
  · rfl
  · simp [isBlank, isSpace_cr]

theorem MayReturn.trim_eq {l l' : Text} (mayReturn : MayReturn l l') : l'.trim = l.trim := by
  rcases mayReturn with rfl | rfl
  · rfl
  · exact trim_append_space l isSpace_cr

theorem words_dropCr (t : Text) : words (dropCr t) = words t := by
  rw [dropCr]
  split
  next returned =>
    obtain ⟨front, rfl⟩ := List.getLast?_eq_some_iff.mp returned
    rw [List.dropLast_concat, words_append_last_space front isSpace_cr]
  next => rfl

theorem splitOnce_append {separator c : Char} {l : Text} (differs : c ≠ separator) :
    splitOnce separator (l ++ [c]) =
      (splitOnce separator l).map fun parts => (parts.1, parts.2 ++ [c]) := by
  induction l with
  | nil => simp [splitOnce, differs]
  | cons d rest ih =>
    simp only [List.cons_append, splitOnce, ih]
    split
    · rfl
    · simp [Option.map_map, Function.comp_def]

end HttpCascade.Text
