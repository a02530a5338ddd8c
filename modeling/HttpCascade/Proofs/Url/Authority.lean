import HttpCascade.Proofs.Outcome
import HttpCascade.Proofs.Text.Trim
import HttpCascade.Url.Basic

/-!
# What makes a URL valid

Only an authority can be at fault (`validate_of_opens`). So a URL that has none is valid
(`validate_of_no_authority`), and what comes after the end of an authority does not count
(`validate_append_congr`).

Where an authority stands is said by `Opens`. After `http`, `https`, `ws`, `wss` and `ftp` it is
what comes next behind all slashes. After any other scheme, or without a scheme, there is an
authority only if two slashes announce it: `users/7`, `/users` and `mailto:a` have none.
-/

namespace HttpCascade.Url

variable {front back rest t : Text} {kind : SchemeKind}

/-! ### The visible text -/

/-- A character that is not cut off at the ends of a URL. -/
def IsVisible (c : Char) : Prop := 0x20 < c.toNat

theorem clean_eq (solid : t.IsSolid) :
    clean t = (t.dropWhile fun c => decide (c.toNat ≤ 0x20)).rdropWhile
      fun c => decide (c.toNat ≤ 0x20) := by
  apply List.filter_eq_self.mpr
  intro c member
  have ink : isSpace c = false := by
    apply solid
    exact (List.dropWhile_sublist _).mem ((List.rdropWhile_prefix _ _).mem member)
  by_contra control
  -- Tabs and line ends are white space.
  have isControl : c = '\t' ∨ c = '\n' ∨ c = '\r' := by
    simp only [Bool.and_eq_true, decide_eq_true_eq, ne_eq] at control
    tauto
  rcases isControl with rfl | rfl | rfl <;> cases ink

/-- Only characters that are not visible are cut off. -/
theorem exists_clean (solid : t.IsSolid) :
    ∃ before after, t = before ++ clean t ++ after ∧ (∀ c ∈ before, ¬ IsVisible c) ∧
      ∀ c ∈ after, ¬ IsVisible c := by
  let outer (c : Char) : Bool := decide (c.toNat ≤ 0x20)
  have hidden {c : Char} (isOuter : outer c = true) : ¬ IsVisible c :=
    Nat.not_lt.mpr (of_decide_eq_true isOuter)
  refine ⟨t.takeWhile outer, (t.dropWhile outer).rtakeWhile outer, ?_, ?_, ?_⟩
  · rw [clean_eq solid, List.append_assoc, List.rdropWhile_append_rtakeWhile,
      List.takeWhile_append_dropWhile]
  · exact fun c member => hidden (List.mem_takeWhile_imp member)
  · exact fun c member => hidden (List.mem_rtakeWhile_imp member)

/-- What stands between visible characters is left as it is. -/
theorem clean_append {before : Text} {c : Char} (hidden : ∀ d ∈ before, ¬ IsVisible d)
    (solid : (before ++ (front ++ c :: back)).IsSolid)
    (visible : ∀ d ∈ (front ++ [c]).head?, IsVisible d) (last : IsVisible c) :
    ∃ rest, clean (before ++ (front ++ c :: back)) = front ++ c :: rest := by
  let outer (c : Char) : Bool := decide (c.toNat ≤ 0x20)
  have stops {d : Char} (isVisible : IsVisible d) : ¬ outer d = true := by
    simpa only [outer, decide_eq_true_eq, Nat.not_le, IsVisible] using isVisible
  have passes : ∀ d ∈ before, outer d = true := fun d member => by
    simpa only [outer, decide_eq_true_eq, IsVisible, Nat.not_lt] using hidden d member
  have started : (before ++ (front ++ c :: back)).dropWhile outer = front ++ c :: back := by
    rw [List.dropWhile_append_of_pos passes]
    cases front with
    | nil => exact List.dropWhile_cons_of_neg (stops last)
    | cons first others => exact List.dropWhile_cons_of_neg (stops (visible first rfl))
  refine ⟨back.rdropWhile outer, ?_⟩
  rw [clean_eq solid, started, List.rdropWhile, List.rdropWhile, List.reverse_append,
    List.reverse_cons, List.append_assoc, List.dropWhile_append]
  split
  next empty =>
    rw [List.isEmpty_iff.mp empty, List.singleton_append, List.dropWhile_cons_of_neg (stops last)]
    simp
  next => simp [outer]

theorem isVisible_of_isAlpha {c : Char} (isLetter : c.isAlpha = true) : IsVisible c := by
  have eitherCase : (c.isUpper || c.isLower) = true := isLetter
  have atLeast : 65 ≤ c.toNat := by
    rcases Bool.or_eq_true_iff.mp eitherCase with upper | lower
    · have between : 'A'.val ≤ c.val ∧ c.val ≤ 'Z'.val := of_decide_eq_true upper
      exact between.1
    · have between : (decide ('a'.val ≤ c.val) && decide (c.val ≤ 'z'.val)) = true := lower
      have above : 97 ≤ c.toNat := of_decide_eq_true (Bool.and_eq_true_iff.mp between).1
      omega
  unfold IsVisible
  omega

/-! ### Schemes -/

/-- A scheme as it is written: a letter, then letters, digits, `+`, `-` and `.`. -/
structure IsScheme (name : Text) : Prop where
  starts : ∃ letter ∈ name.head?, letter.isAlpha = true
  inside : ∀ c ∈ name, c.isAlphanum = true ∨ c = '+' ∨ c = '-' ∨ c = '.'

theorem isSchemeChar_iff {c : Char} :
    isSchemeChar c = true ↔ c.isAlphanum = true ∨ c = '+' ∨ c = '-' ∨ c = '.' := by
  simp [isSchemeChar, or_assoc]

theorem splitScheme_eq_some_iff {lower : Text} :
    splitScheme t = some (lower, rest) ↔
      ∃ name, IsScheme name ∧ lower = name.map Char.toLower ∧ t = name ++ ':' :: rest := by
  constructor
  · intro split
    unfold splitScheme at split
    split at split
    next letter =>
      split at split
      next colon =>
        cases split
        have cut : t = t.takeWhile isSchemeChar ++ ':' :: rest := by
          rw [← colon, List.takeWhile_append_dropWhile]
        refine ⟨t.takeWhile isSchemeChar,
          ⟨?_, fun c member => isSchemeChar_iff.mp (List.mem_takeWhile_imp member)⟩, rfl, cut⟩
        cases t with
        | nil => cases letter
        | cons first others =>
          have isLetter : first.isAlpha = true := letter
          have inside : isSchemeChar first = true :=
            isSchemeChar_iff.mpr (.inl (by simp [Char.isAlphanum, isLetter]))
          exact ⟨first, by simp [inside], isLetter⟩
      next => cases split
    next => cases split
  · rintro ⟨name, ⟨⟨letter, first, isLetter⟩, inside⟩, rfl, rfl⟩
    have stops : isSchemeChar ':' = false := by decide
    have all : ∀ c ∈ name, isSchemeChar c = true :=
      fun c member => isSchemeChar_iff.mpr (inside c member)
    obtain ⟨others, rfl⟩ := List.head?_eq_some_iff.mp first
    rw [splitScheme, List.dropWhile_append_of_pos all, List.takeWhile_append_of_pos all,
      List.dropWhile_cons_of_neg (by simp [stops]), List.takeWhile_cons_of_neg (by simp [stops])]
    simp [isLetter]

/-- The schemes with an authority in every URL, and their ports. -/
def specialSchemes : List (Text × Nat) :=
  [("http", 80), ("ws", 80), ("https", 443), ("wss", 443), ("ftp", 21)]

theorem ofName_eq_file_iff {name : Text} :
    SchemeKind.ofName name = .file ↔ name = "file" := by
  unfold SchemeKind.ofName
  split
  next isFile => simp [isFile]
  next notFile =>
    simp only [notFile, iff_false]
    repeat' split
    all_goals rintro ⟨⟩

theorem ofName_eq_special_iff {name : Text} {port : Nat} :
    SchemeKind.ofName name = .special port ↔ (name, port) ∈ specialSchemes := by
  constructor
  · unfold SchemeKind.ofName
    intro known
    repeat' split at known
    all_goals cases known
    all_goals simp_all [specialSchemes]
  · intro known
    simp only [specialSchemes, List.mem_cons, List.not_mem_nil, or_false, Prod.mk.injEq] at known
    rcases known with ⟨rfl, rfl⟩ | ⟨rfl, rfl⟩ | ⟨rfl, rfl⟩ | ⟨rfl, rfl⟩ | ⟨rfl, rfl⟩ <;> decide

theorem ofName_eq_other_iff {name : Text} :
    SchemeKind.ofName name = .other ↔ name ≠ "file" ∧ ∀ port, (name, port) ∉ specialSchemes := by
  simp only [ne_eq, ← ofName_eq_file_iff, ← ofName_eq_special_iff]
  cases SchemeKind.ofName name <;> simp

/-! ### Authorities -/

def IsSlash (c : Char) : Prop := c = '/' ∨ c = '\\'

/-- A character that no authority holds; a backslash does so only for the schemes that are known. -/
def IsEnding (kind : SchemeKind) (c : Char) : Prop :=
  c = '/' ∨ c = '?' ∨ c = '#' ∨ (kind ≠ .other ∧ c = '\\')

theorem isSlash_iff {c : Char} : isSlash c = true ↔ IsSlash c := by
  simp [isSlash, IsSlash]

theorem endsAuthority_iff {c : Char} :
    endsAuthority kind.isSpecial c = true ↔ IsEnding kind c := by
  cases kind <;> simp [endsAuthority, IsEnding, SchemeKind.isSpecial, or_assoc]

theorem endsAuthority_eq_false_iff {c : Char} :
    endsAuthority kind.isSpecial c = false ↔ ¬ IsEnding kind c := by
  rw [← endsAuthority_iff, Bool.not_eq_true]

theorem IsSlash.isVisible {c : Char} (slash : IsSlash c) : IsVisible c := by
  rcases slash with rfl | rfl <;> simp [IsVisible]

theorem IsEnding.isVisible {c : Char} (ends : IsEnding kind c) : IsVisible c := by
  rcases ends with rfl | rfl | rfl | ⟨_, rfl⟩ <;> simp [IsVisible]

/-- A text that stands in front of an authority, and the text from the authority on. A URL without a
scheme is read beside an `http` URL. -/
inductive Opens : SchemeKind → Text → Text → Prop
  -- All slashes are passed over, if there are any: `http:h`, `http:/h` and `http:\\\h` are alike.
  | special {port : Nat} {scheme slashes rest : Text} (isScheme : IsScheme scheme)
      (known : (scheme.map Char.toLower, port) ∈ specialSchemes)
      (areSlashes : ∀ c ∈ slashes, IsSlash c) (all : ∀ c ∈ rest.head?, ¬ IsSlash c) :
      Opens (.special port) (scheme ++ ':' :: slashes) rest
  -- A file URL and one of an unknown scheme need two slashes; a third one is behind the authority.
  | file {a b : Char} {scheme rest : Text} (isScheme : IsScheme scheme)
      (known : scheme.map Char.toLower = "file") (first : IsSlash a) (second : IsSlash b) :
      Opens .file (scheme ++ [':', a, b]) rest
  | other {scheme rest : Text} (isScheme : IsScheme scheme)
      (unknown : scheme.map Char.toLower ≠ "file" ∧
        ∀ port, (scheme.map Char.toLower, port) ∉ specialSchemes) :
      Opens .other (scheme ++ [':', '/', '/']) rest
  -- So does a URL without a scheme; but with a backslash it is read like one with a scheme.
  | plain {rest : Text} : Opens (.special 80) ['/', '/'] rest
  | mixed {a b : Char} {slashes rest : Text} (first : IsSlash a) (second : IsSlash b)
      (backslash : ¬ (a = '/' ∧ b = '/')) (areSlashes : ∀ c ∈ slashes, IsSlash c)
      (all : ∀ c ∈ rest.head?, ¬ IsSlash c) :
      Opens (.special 80) (a :: b :: slashes) rest

/-- A cut of a URL where its authority ends: before a slash, `?` or `#`, or at the end of the
URL. -/
inductive AuthorityEnds : Text → Text → Prop
  | intro {kind : SchemeKind} {before opening authority back : Text}
      (hidden : ∀ c ∈ before, ¬ IsVisible c) (opens : Opens kind opening (authority ++ back))
      (inside : ∀ c ∈ authority, ¬ IsEnding kind c) (ends : ∀ c ∈ back.head?, IsEnding kind c) :
      AuthorityEnds (before ++ (opening ++ authority)) back

def HasAuthority (url : Text) : Prop := ∃ front back, url = front ++ back ∧ AuthorityEnds front back

/-- A colon or two slashes in a row are part of every URL with an authority. -/
theorem HasAuthority.colon_or_slashes (has : HasAuthority t) :
    ':' ∈ t ∨ ∃ a b, IsSlash a ∧ IsSlash b ∧ [a, b] <:+: t := by
  obtain ⟨_, back, rfl, ends⟩ := has
  cases ends with
  | @intro _ before _ authority _ hidden opens =>
    cases opens with
    | special | file | other => exact .inl (by simp)
    | plain => exact .inr ⟨'/', '/', .inl rfl, .inl rfl, before, authority ++ back, by simp⟩
    | @mixed a b slashes _ first second =>
      exact .inr ⟨a, b, first, second, before, slashes ++ authority ++ back, by simp⟩

variable {opening : Text}

theorem Opens.visible (opens : Opens kind opening rest) :
    ∃ first others, opening = first :: others ∧ IsVisible first := by
  have scheme {name : Text} (isScheme : IsScheme name) (after : Text) :
      ∃ first others, name ++ after = first :: others ∧ IsVisible first := by
    obtain ⟨⟨letter, first, isLetter⟩, _⟩ := isScheme
    obtain ⟨others, rfl⟩ := List.head?_eq_some_iff.mp first
    exact ⟨letter, others ++ after, rfl, isVisible_of_isAlpha isLetter⟩
  cases opens with
  | special isScheme | file isScheme | other isScheme => exact scheme isScheme _
  | plain => exact ⟨_, _, rfl, IsSlash.isVisible (.inl rfl)⟩
  | mixed first => exact ⟨_, _, rfl, first.isVisible⟩

/-- Of the text from the authority on, only the first character counts. -/
theorem Opens.congr {rest' : Text} (opens : Opens kind opening rest)
    (first : ∀ c ∈ rest'.head?, c ∈ rest.head? ∨ ¬ IsSlash c) : Opens kind opening rest' := by
  have apart (all : ∀ c ∈ rest.head?, ¬ IsSlash c) : ∀ c ∈ rest'.head?, ¬ IsSlash c :=
    fun c member => (first c member).elim (all c) id
  cases opens with
  | special isScheme known areSlashes all => exact .special isScheme known areSlashes (apart all)
  | file isScheme known first second => exact .file isScheme known first second
  | other isScheme unknown => exact .other isScheme unknown
  | plain => exact .plain
  | mixed first second backslash areSlashes all =>
    exact .mixed first second backslash areSlashes (apart all)

/-! ### Checking an authority -/

/-- Whether the authority that a text starts with can be read. -/
def checkAuthority (kind : SchemeKind) (t : Text) : Except UrlError Unit :=
  let extent := t.takeWhile fun c => !endsAuthority kind.isSpecial c
  if kind = .file then
    if Path.isDrive extent then .ok () else (readFileHost extent).map fun _ => ()
  else (readAuthority kind t).map fun _ => ()

/-- What follows an authority does not count for it. -/
theorem checkAuthority_append {authority : Text} {ending : Char}
    (inside : ∀ c ∈ authority, ¬ IsEnding kind c) (ends : IsEnding kind ending)
    (back back' : Text) :
    checkAuthority kind (authority ++ ending :: back) =
      checkAuthority kind (authority ++ ending :: back') := by
  have extent (back : Text) : (authority ++ ending :: back).takeWhile
      (fun c => !endsAuthority kind.isSpecial c) = authority := by
    rw [List.takeWhile_append_of_pos fun c member => by
        simp [endsAuthority_eq_false_iff.mpr (inside c member)],
      List.takeWhile_cons_of_neg (by simp [endsAuthority_iff.mpr ends]), List.append_nil]
  unfold checkAuthority readAuthority
  simp only [extent, List.drop_left, ne_eq, reduceCtorEq, not_false_eq_true, decide_true,
    Bool.and_true]
  split
  · rfl
  · split
    · rfl
    · cases readHostAndPort kind ((splitCredentials authority).getD ([], authority)).2 with
      | error e => rfl
      | ok found =>
        simp only [bind, Except.bind]
        split <;> rfl

/-- Nothing can go wrong once the authority is read. -/
theorem readAfterSlashes_outcome (kind : SchemeKind) (different : kind ≠ .file) (scheme t : Text) :
    (readAfterSlashes scheme kind t).map (fun _ => ()) = checkAuthority kind t := by
  rw [readAfterSlashes, checkAuthority, if_neg different]
  cases readAuthority kind t <;> rfl

theorem readFile_outcome {a b : Char} (first : IsSlash a) (second : IsSlash b)
    (scheme t : Text) :
    (readFile scheme (a :: b :: t)).map (fun _ => ()) = checkAuthority .file t := by
  have ends (c : Char) : endsAuthority SchemeKind.file.isSpecial c =
      (isSlash c || c == '?' || c == '#') := by
    cases slash : c == '/' <;> cases backslash : c == '\\' <;>
      simp [endsAuthority, isSlash, SchemeKind.isSpecial, slash, backslash]
  simp only [checkAuthority, if_true, ends, readFile, isSlash_iff.mpr first, isSlash_iff.mpr second,
    Bool.and_self]
  split
  · rfl
  · cases readFileHost (t.takeWhile fun c => !(isSlash c || c == '?' || c == '#')) with
    | error e => rfl
    | ok host =>
      simp only [bind, Except.bind]
      split <;> rfl

/-! ### Faults of an authority -/

theorem bind_ne_relative {α β : Type} {x : Except UrlError α} {f : α → Except UrlError β}
    (first : x ≠ .error .relative) (later : ∀ a, f a ≠ .error .relative) :
    x >>= f ≠ .error .relative := by
  intro failed
  obtain atOnce | ⟨a, _, failedLater⟩ := bind_eq_error_iff.mp failed
  · exact first atOnce
  · exact later a failedLater

theorem ofDomain_ne_relative (t : Text) : Host.ofDomain t ≠ .error .relative := by
  unfold Host.ofDomain Host.bracketed
  repeat' split
  all_goals rintro ⟨⟩

theorem ofText_ne_relative (t : Text) : Host.ofText t ≠ .error .relative := by
  unfold Host.ofText Host.bracketed
  repeat' split
  all_goals rintro ⟨⟩

theorem readPort_ne_relative (t : Text) : readPort kind t ≠ .error .relative := by
  unfold readPort
  repeat' split
  all_goals rintro ⟨⟩

theorem readHostAndPort_ne_relative (t : Text) : readHostAndPort kind t ≠ .error .relative := by
  have withPort (host : Host) (digits : Text) : (do
      if host = .name [] then throw .emptyHost
      let port ← readPort kind digits
      pure (host, port) : Except UrlError (Host × Option Nat)) ≠ .error .relative := by
    split
    · rintro ⟨⟩
    · refine bind_ne_relative (readPort_ne_relative _) fun port => ?_
      rintro ⟨⟩
  unfold readHostAndPort
  dsimp only
  split
  · rintro ⟨⟩
  · split
    · refine bind_ne_relative (ofDomain_ne_relative _) fun host => ?_
      split
      · rintro ⟨⟩
      · exact withPort host _
    · refine bind_ne_relative (ofText_ne_relative _) fun host => ?_
      split
      · rintro ⟨⟩
      · exact withPort host _

theorem readAuthority_ne_relative (t : Text) : readAuthority kind t ≠ .error .relative := by
  unfold readAuthority
  dsimp only
  split
  · rintro ⟨⟩
  · refine bind_ne_relative (readHostAndPort_ne_relative _) fun found => ?_
    split
    · rintro ⟨⟩
    · rintro ⟨⟩

theorem readFileHost_ne_relative (t : Text) : readFileHost t ≠ .error .relative := by
  unfold readFileHost
  split
  · rintro ⟨⟩
  · split
    · split <;> rintro ⟨⟩
    next e failed =>
      rintro ⟨⟩
      exact ofDomain_ne_relative t failed

theorem checkAuthority_ne_relative (kind : SchemeKind) (t : Text) :
    checkAuthority kind t ≠ .error .relative := by
  unfold checkAuthority
  dsimp only
  split
  · split
    · rintro ⟨⟩
    · exact fun failed => readFileHost_ne_relative _ (map_eq_error_iff.mp failed)
  · exact fun failed => readAuthority_ne_relative _ (map_eq_error_iff.mp failed)

/-! ### Checking a URL -/

/-- What is said when a URL is parsed stands, unless it is that the URL is a reference. -/
theorem validate_of_parse {outcome : Except UrlError Unit}
    (parses : (parse t).map (fun _ => ()) = outcome) (known : outcome ≠ .error .relative) :
    validate t = outcome := by
  subst parses
  rw [validate]
  cases parsed : parse t with
  | ok url => rfl
  | error e =>
    rw [parsed] at known
    cases e with
    | relative => exact absurd rfl known
    | _ => rfl

theorem parse_of_splitScheme {lower : Text} (split : splitScheme (clean t) = some (lower, rest)) :
    parse t = match SchemeKind.ofName lower with
      | .file => readFile lower rest
      | .special port => readAfterSlashes lower (.special port) (rest.dropWhile isSlash)
      | .other => readOther lower rest := by
  cases kind : SchemeKind.ofName lower <;> simp only [parse, split, kind]

/-- Without a scheme a URL is a reference. -/
theorem validate_of_reference (none : splitScheme (clean t) = none) :
    validate t = checkReference t := by
  simp only [validate, parse, none]

theorem splitScheme_of_isSlash {c : Char} (slash : IsSlash c) : splitScheme (c :: t) = none := by
  rcases slash with rfl | rfl <;> rfl

theorem dropWhile_slashes {slashes : Text} (areSlashes : ∀ c ∈ slashes, IsSlash c)
    (all : ∀ c ∈ rest.head?, ¬ IsSlash c) : (slashes ++ rest).dropWhile isSlash = rest := by
  rw [List.dropWhile_append_of_pos fun c member => isSlash_iff.mpr (areSlashes c member)]
  cases rest with
  | nil => rfl
  | cons c others =>
    refine List.dropWhile_cons_of_neg fun slash => ?_
    exact all c rfl (isSlash_iff.mp slash)

/-- Where an authority stands, it alone can be at fault. -/
theorem validate_of_opens (opens : Opens kind opening rest) (same : clean t = opening ++ rest) :
    validate t = checkAuthority kind rest := by
  have faults := checkAuthority_ne_relative kind rest
  have scheme {name after : Text} (isScheme : IsScheme name)
      (cut : opening = name ++ ':' :: after) :
      splitScheme (clean t) = some (name.map Char.toLower, after ++ rest) :=
    splitScheme_eq_some_iff.mpr ⟨name, isScheme, rfl, by rw [same, cut]; simp⟩
  have noScheme {first : Char} {after : Text} (slash : IsSlash first)
      (cut : opening = first :: after) : validate t = checkReference t :=
    validate_of_reference (by rw [same, cut, List.cons_append, splitScheme_of_isSlash slash])
  cases opens with
  | special isScheme known areSlashes all =>
    refine validate_of_parse ?_ faults
    rw [parse_of_splitScheme (scheme isScheme rfl), ofName_eq_special_iff.mpr known]
    simp only [dropWhile_slashes areSlashes all]
    exact readAfterSlashes_outcome (.special _) nofun _ rest
  | file isScheme known first second =>
    refine validate_of_parse ?_ faults
    rw [parse_of_splitScheme (scheme isScheme rfl), ofName_eq_file_iff.mpr known]
    exact readFile_outcome first second _ rest
  | other isScheme unknown =>
    refine validate_of_parse ?_ faults
    rw [parse_of_splitScheme (scheme isScheme rfl), ofName_eq_other_iff.mpr unknown]
    exact readAfterSlashes_outcome .other nofun _ rest
  | plain =>
    rw [noScheme (.inl rfl) rfl, checkReference, same]
    exact readAfterSlashes_outcome (.special 80) nofun _ rest
  | @mixed a b slashes _ first second backslash areSlashes all =>
    rw [noScheme first rfl, checkReference, same, List.cons_append, List.cons_append]
    split
    next eq =>
      cases eq
      exact absurd ⟨rfl, rfl⟩ backslash
    next eq =>
      cases eq
      rw [isSlash_iff.mpr first, isSlash_iff.mpr second, dropWhile_slashes areSlashes all]
      exact readAfterSlashes_outcome (.special 80) nofun _ rest
    next no => exact absurd rfl (no a b (slashes ++ rest))

theorem readFile_cases (scheme t : Text) :
    (∃ a b rest, t = a :: b :: rest ∧ IsSlash a ∧ IsSlash b) ∨
      ∃ url, readFile scheme t = .ok url := by
  unfold readFile
  split
  next a b rest =>
    split
    next both =>
      obtain ⟨first, second⟩ := Bool.and_eq_true_iff.mp both
      exact .inl ⟨a, b, rest, rfl, isSlash_iff.mp first, isSlash_iff.mp second⟩
    next => exact .inr ⟨_, rfl⟩
  next => exact .inr ⟨_, rfl⟩

theorem readOther_cases (scheme t : Text) :
    (∃ rest, t = '/' :: '/' :: rest) ∨ ∃ url, readOther scheme t = .ok url := by
  unfold readOther
  split
  next rest => exact .inl ⟨rest, rfl⟩
  next => exact .inr ⟨_, rfl⟩

/-- A URL is valid, or an authority stands in it. -/
theorem validate_cases (t : Text) :
    validate t = .ok () ∨
      ∃ kind opening rest, clean t = opening ++ rest ∧ Opens kind opening rest := by
  have taken (rest : Text) : ∀ c ∈ rest.takeWhile isSlash, IsSlash c :=
    fun c member => isSlash_iff.mp (List.mem_takeWhile_imp member)
  have stopped (rest : Text) : ∀ c ∈ (rest.dropWhile isSlash).head?, ¬ IsSlash c := by
    intro c first slash
    have stops := List.head?_dropWhile_not isSlash rest
    rw [first] at stops
    exact Bool.eq_false_iff.mp stops (isSlash_iff.mpr slash)
  -- The cases are those of the reader: a reference, or a scheme of one of the three kinds.
  cases split : splitScheme (clean t) with
  | none =>
    rw [validate_of_reference split, checkReference]
    split
    next rest same => exact .inr ⟨_, ['/', '/'], rest, same, .plain⟩
    next a b rest notPlain same =>
      split
      next both =>
        obtain ⟨first, second⟩ := Bool.and_eq_true_iff.mp both
        refine .inr ⟨_, a :: b :: rest.takeWhile isSlash, rest.dropWhile isSlash, ?_,
          .mixed (isSlash_iff.mp first) (isSlash_iff.mp second) ?_ (taken rest) (stopped rest)⟩
        · rw [same, List.cons_append, List.cons_append, List.takeWhile_append_dropWhile]
        · rintro ⟨rfl, rfl⟩
          exact notPlain rfl rfl
      next => exact .inl rfl
    next => exact .inl rfl
  | some found =>
    obtain ⟨lower, rest⟩ := found
    obtain ⟨name, isScheme, rfl, same⟩ := splitScheme_eq_some_iff.mp split
    have parsed := parse_of_splitScheme split
    cases kind : SchemeKind.ofName (name.map Char.toLower) with
    | special port =>
      refine .inr ⟨_, name ++ ':' :: rest.takeWhile isSlash, rest.dropWhile isSlash, ?_,
        .special isScheme (ofName_eq_special_iff.mp kind) (taken rest) (stopped rest)⟩
      rw [same, List.append_assoc, List.cons_append, List.takeWhile_append_dropWhile]
    | file =>
      simp only [kind] at parsed
      obtain ⟨a, b, rest, rfl, first, second⟩ | ⟨url, isRead⟩ :=
        readFile_cases (name.map Char.toLower) rest
      · exact .inr ⟨_, name ++ [':', a, b], rest, by rw [same]; simp,
          .file isScheme (ofName_eq_file_iff.mp kind) first second⟩
      · exact .inl (validate_of_parse (by rw [parsed, isRead]; rfl) nofun)
    | other =>
      simp only [kind] at parsed
      obtain ⟨rest, rfl⟩ | ⟨url, isRead⟩ := readOther_cases (name.map Char.toLower) rest
      · exact .inr ⟨_, name ++ [':', '/', '/'], rest, by rw [same]; simp,
          .other isScheme (ofName_eq_other_iff.mp kind)⟩
      · exact .inl (validate_of_parse (by rw [parsed, isRead]; rfl) nofun)

theorem hasAuthority_of_opens (solid : t.IsSolid) (same : clean t = opening ++ rest)
    (opens : Opens kind opening rest) : HasAuthority t := by
  obtain ⟨before, after, cut, hidden, alsoHidden⟩ := exists_clean solid
  let inside (c : Char) : Bool := !endsAuthority kind.isSpecial c
  have opensHere : Opens kind opening ((rest ++ after).takeWhile inside ++
      (rest ++ after).dropWhile inside) := by
    rw [List.takeWhile_append_dropWhile]
    refine opens.congr fun c first => ?_
    -- What was cut off at the end comes first if nothing else is left.
    cases rest with
    | nil =>
      refine .inr fun slash => ?_
      exact alsoHidden c (List.mem_of_head? first) slash.isVisible
    | cons d others => exact .inl first
  refine ⟨_, _, ?_, .intro hidden opensHere (fun c member => ?_) fun c first => ?_⟩
  · rw [List.append_assoc, List.append_assoc, List.takeWhile_append_dropWhile, cut, same]
    simp
  · have goesOn : inside c = true := List.mem_takeWhile_imp member
    exact endsAuthority_eq_false_iff.mp (by simpa [inside] using goesOn)
  · have stops := List.head?_dropWhile_not inside (rest ++ after)
    rw [first] at stops
    exact endsAuthority_iff.mp (by simpa [inside] using stops)

/-- Without an authority nothing can be at fault. -/
theorem validate_of_no_authority (solid : t.IsSolid) (none : ¬ HasAuthority t) :
    validate t = .ok () := by
  obtain valid | ⟨kind, opening, rest, same, opens⟩ := validate_cases t
  · exact valid
  · exact absurd (hasAuthority_of_opens solid same opens) none

/-- Once its authority has ended, a URL is valid whatever follows, or it is not. -/
theorem validate_append_congr {ending : Char} {back' : Text}
    (ends : AuthorityEnds front (ending :: back)) (solid : (front ++ ending :: back).IsSolid)
    (solid' : (front ++ ending :: back').IsSolid) :
    validate (front ++ ending :: back) = validate (front ++ ending :: back') := by
  cases ends with
  | @intro kind before opening authority _ hidden opens inside ends =>
    have closes : IsEnding kind ending := ends ending rfl
    obtain ⟨first, others, rfl, visible⟩ := opens.visible
    -- The end of the authority is visible, so what is cut off at the end of the URL comes later.
    have outcome (back : Text)
        (solid : (before ++ (first :: others ++ authority) ++ ending :: back).IsSolid) :
        ∃ rest, validate (before ++ (first :: others ++ authority) ++ ending :: back) =
          checkAuthority kind (authority ++ ending :: rest) := by
      rw [List.append_assoc] at solid ⊢
      obtain ⟨rest, same⟩ := clean_append hidden solid (by simpa using visible)
        closes.isVisible
      rw [List.append_assoc (first :: others) authority (ending :: rest)] at same
      refine ⟨rest, validate_of_opens (opens.congr fun c start => .inl ?_) same⟩
      cases authority <;> exact start
    obtain ⟨rest, isValid⟩ := outcome back solid
    obtain ⟨rest', isValid'⟩ := outcome back' solid'
    rw [isValid, isValid', checkAuthority_append inside closes]

end HttpCascade.Url
