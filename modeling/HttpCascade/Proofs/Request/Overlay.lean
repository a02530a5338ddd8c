import HttpCascade.Proofs.Outcome
import HttpCascade.Proofs.Request.Grammar

/-!
# Patches laid over a request in turn

Patches are laid one over another, and of each part of the request the last patch with something to
say about it decides. The method and the URL are one part: a patch that was read has both of them or
neither.

## Main result

`apply_in_turn`: what a request is after any number of patches, from the texts that these were read
from.

## Proof strategy

One patch either decides a part or leaves it as it is. For the method and the URL that is so because
a patch has them exactly if its text has a request line (`head_of_parsePatch`). The rest is one
induction along the patches, whatever the part (`lastWins_foldl`).
-/

namespace HttpCascade

/-- The value is that of the last item that gives one, or the one from before if none does. -/
def LastWins {ι α : Type} (gives : ι → α → Prop) (items : List ι) (before after : α) : Prop :=
  (∃ earlier item later, items = earlier ++ item :: later ∧ gives item after ∧
    ∀ other ∈ later, ∀ a, ¬ gives other a) ∨
  ((∀ item ∈ items, ∀ a, ¬ gives item a) ∧ after = before)

section

variable {ι κ σ α : Type} {gives : ι → α → Prop} {given : ι → κ → Prop} {step : σ → κ → σ}

/-- If what is seen of a state changes with a step exactly to what the item of this step gives, then
the last item that gives something decides. -/
theorem lastWins_foldl (view : σ → α) {items : List ι} {steps : List κ}
    (pairs : List.Forall₂ given items steps)
    (one : ∀ item k, given item k → ∀ s, gives item (view (step s k)) ∨
      ((∀ a, ¬ gives item a) ∧ view (step s k) = view s)) (s : σ) :
    LastWins gives items (view s) (view (steps.foldl step s)) := by
  -- Each step acts on what the one before it left, so the state stays general.
  induction pairs generalizing s with
  | nil => exact .inr ⟨by simp, rfl⟩
  | @cons item k rest more first _ ih =>
    rw [List.foldl_cons]
    rcases ih (step s k) with ⟨earlier, last, later, rfl, isLast, none⟩ | ⟨none, same⟩
    · exact .inl ⟨item :: earlier, last, later, rfl, isLast, none⟩
    · -- Nothing after the first item counts, so it is the first or none at all.
      rcases one item k first s with decides | ⟨silent, kept⟩
      · exact .inl ⟨[], item, rest, rfl, same.symm ▸ decides, none⟩
      · exact .inr ⟨List.forall_mem_cons.mpr ⟨silent, none⟩, same.trans kept⟩

end

namespace RequestText

/-- The first line of the text that is not blank is a request line, with this method and URL. -/
def HasRequestLine (t : Text) (head : Text × Text) : Prop :=
  ∃ blanks line rest, t.lines = blanks ++ line :: rest ∧
    (∀ blank ∈ blanks, blank.isBlank = true) ∧ IsRequestLine line head.1 head.2

/-- The text is read as a patch with a body, which is this one. -/
def HasBody (t body : Text) : Prop := body ≠ [] ∧ ∃ p, parsePatch t = .ok p ∧ p.body = body

/-- The text is read as a patch with a header of this name, which has this value. -/
def HasHeader (name t : Text) (value : Option Text) : Prop :=
  value ≠ none ∧ ∃ p, parsePatch t = .ok p ∧ p.headers.get? name = value

variable {t method url : Text} {number : Nat} {line : Text} {rest : List Text}
  {p : PartialRequest}

/-! ### The request line of a patch -/

theorem not_hasRequestLine_of_blank (first : firstLine? number t.lines = none) (head : Text × Text) :
    ¬ HasRequestLine t head := by
  rintro ⟨blanks, line, rest, eq, _, isLine⟩
  have blank := firstLine?_eq_none_iff.mp first line (by simp [eq])
  rw [isLine.not_isBlank] at blank
  cases blank

/-- Whether a text has a request line is seen from its first line that is not blank. -/
theorem hasRequestLine_iff (first : firstLine? 1 t.lines = some (number, line, rest))
    (head : Text × Text) :
    HasRequestLine t head ↔ requestLine number line = .ok head := by
  obtain ⟨method, url⟩ := head
  rw [requestLine_ok_iff]
  constructor
  · rintro ⟨blanks, other, after, eq, allBlank, isLine⟩
    have alsoFirst : firstLine? 1 t.lines = some (1 + blanks.length, other, after) :=
      firstLine?_eq_some_iff.mpr ⟨blanks, eq, allBlank, isLine.not_isBlank, rfl⟩
    cases first.symm.trans alsoFirst
    exact isLine
  · intro isLine
    obtain ⟨blanks, eq, allBlank, _⟩ := firstLine?_eq_some_iff.mp first
    exact ⟨blanks, line, rest, eq, allBlank, isLine⟩

/-- A patch has a method and a URL if its text has a request line, and else neither of them. -/
theorem head_of_parsePatch (read : parsePatch t = .ok p) :
    (∃ method url, HasRequestLine t (method, url) ∧ p.method = some method ∧ p.url = some url) ∨
      (∀ head, ¬ HasRequestLine t head) ∧ p.method = none ∧ p.url = none := by
  unfold parsePatch at read
  split at read
  next first =>
    cases read
    exact .inr ⟨not_hasRequestLine_of_blank first, rfl, rfl⟩
  next number line rest first =>
    have hasLine := hasRequestLine_iff first
    split at read
    next looks =>
      split at read
      · cases read
      next method url isHead =>
        refine .inl ⟨method, url, (hasLine _).mpr isHead, ?_⟩
        -- Whatever follows the line, its method and URL are kept.
        split at read
        · cases read
          exact ⟨rfl, rfl⟩
        · split at read <;>
          · obtain ⟨_, _, _, rfl⟩ := contents_eq_ok_iff.mp read
            exact ⟨rfl, rfl⟩
    next looks =>
      obtain ⟨_, _, _, rfl⟩ := contents_eq_ok_iff.mp read
      refine .inr ⟨fun head has => ?_, rfl, rfl⟩
      exact looks (looksLike_of_requestLine ((hasLine head).mp has))

/-! ### One patch -/

theorem apply_head (read : parsePatch t = .ok p) (r : Request) :
    HasRequestLine t ((r.apply p).method, (r.apply p).url) ∨
      ((∀ head, ¬ HasRequestLine t head) ∧
        ((r.apply p).method, (r.apply p).url) = (r.method, r.url)) := by
  rcases head_of_parsePatch read with ⟨method, url, has, isMethod, isUrl⟩ | ⟨none, noMethod, noUrl⟩
  · left
    simpa only [Request.apply, isMethod, isUrl, Option.getD_some] using has
  · right
    refine ⟨none, ?_⟩
    simp only [Request.apply, noMethod, noUrl, Option.getD_none]

theorem apply_body (read : parsePatch t = .ok p) (r : Request) :
    HasBody t (r.apply p).body ∨ ((∀ body, ¬ HasBody t body) ∧ (r.apply p).body = r.body) := by
  by_cases empty : p.body = []
  · right
    refine ⟨?_, by rw [Request.apply, if_pos empty]⟩
    rintro body ⟨nonempty, q, alsoRead, rfl⟩
    cases read.symm.trans alsoRead
    exact nonempty empty
  · left
    have isBody : (r.apply p).body = p.body := by rw [Request.apply, if_neg empty]
    rw [isBody]
    exact ⟨empty, p, read, rfl⟩

theorem apply_header (name : Text) (read : parsePatch t = .ok p) (r : Request) :
    HasHeader name t ((r.apply p).headers.get? name) ∨
      ((∀ value, ¬ HasHeader name t value) ∧
        (r.apply p).headers.get? name = r.headers.get? name) := by
  have lookUp : (r.apply p).headers.get? name =
      (p.headers.get? name).or (r.headers.get? name) := NameMap.get?_merge _ _ name
  rw [lookUp]
  cases found : p.headers.get? name with
  | none =>
    right
    refine ⟨?_, rfl⟩
    rintro value ⟨present, q, alsoRead, rfl⟩
    cases read.symm.trans alsoRead
    exact present found
  | some value => exact .inl ⟨by simp, p, read, found⟩

/-! ### All patches -/

/-- After any number of patches the request has the method and the URL of the last text with a
request line, the body of the last one with a body, and each header from the last one that has it;
what no text has is as it was. -/
theorem apply_in_turn {texts : List Text} {patches : List PartialRequest}
    (read : texts.mapM parsePatch = .ok patches) (r : Request) :
    LastWins HasRequestLine texts (r.method, r.url)
        ((patches.foldl Request.apply r).method, (patches.foldl Request.apply r).url) ∧
      LastWins HasBody texts r.body (patches.foldl Request.apply r).body ∧
      ∀ name, LastWins (HasHeader name) texts (r.headers.get? name)
        ((patches.foldl Request.apply r).headers.get? name) := by
  have pairs := mapM_eq_ok_iff.mp read
  refine ⟨?_, ?_, fun name => ?_⟩
  · exact lastWins_foldl (fun r : Request => (r.method, r.url)) pairs
      (fun _ _ => apply_head) r
  · exact lastWins_foldl Request.body pairs (fun _ _ => apply_body) r
  · exact lastWins_foldl (fun r : Request => r.headers.get? name) pairs
      (fun _ _ => apply_header name) r

/-- A request line alone, headers and a body alone, and a header that was there before. -/
theorem apply_in_turn_three_texts :
    let texts : List Text := ["put  http://b", "A: 2\n\nbody", "\nA: 3\nB:"]
    let patches : List PartialRequest := [⟨some "put", some "http://b", ∅, []⟩,
      ⟨none, none, .ofList [("A", "2")], "body"⟩, ⟨none, none, .ofList [("A", "3"), ("B", [])], []⟩]
    let r : Request := ⟨"GET", "http://a", .ofList [("C", "1")], "old"⟩
    texts.mapM parsePatch = .ok patches ∧
      patches.foldl Request.apply r =
        ⟨"put", "http://b", .ofList [("A", "3"), ("B", []), ("C", "1")], "body"⟩ ∧
      LastWins HasRequestLine texts ("GET".toList, "http://a".toList)
        ("put".toList, "http://b".toList) ∧
      LastWins HasBody texts "old".toList "body".toList ∧
      LastWins (HasHeader "A") texts none (some "3".toList) := by
  intro texts patches r
  have read : texts.mapM parsePatch = .ok patches := by decide +kernel
  have result : patches.foldl Request.apply r =
      ⟨"put", "http://b", .ofList [("A", "3"), ("B", []), ("C", "1")], "body"⟩ := by decide +kernel
  obtain ⟨head, body, headers⟩ := apply_in_turn read r
  rw [result] at head body headers
  exact ⟨read, result, head, body, headers "A"⟩

end RequestText

end HttpCascade
