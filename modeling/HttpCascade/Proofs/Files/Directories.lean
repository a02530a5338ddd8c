import HttpCascade.Proofs.Files.Contents
import HttpCascade.Proofs.Path.Components

/-!
# Names in a directory

A name that is read on from a path stands in the directory that the path leads to, whatever the name
is (`walk_name`). So the places of several names in one directory are told from that directory, which
no new file changes (`enter_put`), and from the names themselves (`locateNew_join_iff`).
-/

namespace HttpCascade

namespace Path

/-- Two names that are read on from one path lead to different paths. -/
theorem join_inj {p : Path} {name other : Text} (isName : IsName name) (isNameOther : IsName other) :
    p.join ⟨name⟩ = p.join ⟨other⟩ ↔ name = other := by
  refine ⟨fun same => ?_, fun same => by rw [same]⟩
  -- The name is the last component, whether or not a slash had to be put before it.
  have components := congrArg Path.components same
  rw [components_join isName, components_join isNameOther] at components
  simpa using components

end Path

namespace Disk

variable {d : Disk} {here place : Place} {directory : Path} {name : Text}

/-! ### Walks through a directory -/

/-- The steps to the directory that names are read on from. -/
def way (p : Path) : List Component :=
  if p.text = [] then []
  else if p.text.getLast? = some '/' then (steps p).dropLast
  else steps p

theorem stepOf_of_isName (isName : Path.IsName name) : stepOf name = .normal name := by
  have notCurrent : (name = [] || name = ['.']) = false := by
    simp [isName.nonempty, isName.notCurrent]
  rw [stepOf, notCurrent, if_neg (by simp), if_neg isName.notParent]

theorem steps_append_slash (t rest : Text) :
    steps ⟨t ++ '/' :: rest⟩ = steps ⟨t⟩ ++ steps ⟨rest⟩ := by
  simp only [steps, Text.splitAll_append_separator, List.map_append]

theorem steps_of_isName (isName : Path.IsName name) : steps ⟨name⟩ = [.normal name] := by
  have alone : Text.splitAll '/' name = [name] := Text.splitAll_of_not_mem isName.withoutSlash
  simp only [steps, alone, List.map_cons, List.map_nil, stepOf_of_isName isName]

/-- A slash at the end is a step of its own, which asks for a directory. -/
theorem steps_append_last_slash (front : Text) : steps ⟨front ++ ['/']⟩ = steps ⟨front⟩ ++ [.current] :=
  steps_append_slash front []

theorem way_append_last_slash (front : Text) : way ⟨front ++ ['/']⟩ = steps ⟨front⟩ := by
  rw [way, if_neg (by simp), if_pos (by simp), steps_append_last_slash, List.dropLast_concat]

theorem steps_join (isName : Path.IsName name) :
    steps (directory.join ⟨name⟩) = way directory ++ [.normal name] := by
  have relative := isName.isRelative
  obtain ⟨text⟩ := directory
  by_cases empty : text = []
  · rw [Path.join_of_empty _ empty, way, if_pos empty, steps_of_isName isName, List.nil_append]
  · unfold Path.join
    rw [if_neg (by simp [relative, empty])]
    by_cases ended : text.getLast? = some '/'
    · -- The slash that is there parts the name from the steps before it.
      obtain ⟨front, rfl⟩ := List.getLast?_eq_some_iff.mp ended
      rw [if_pos (by simp), way_append_last_slash, ← steps_of_isName isName, ← steps_append_slash,
        List.append_assoc, List.singleton_append]
    · rw [if_neg (by simp [ended]), steps_append_slash, steps_of_isName isName, way, if_neg empty,
        if_neg ended]

theorem start_join (isName : Path.IsName name) :
    start here (directory.join ⟨name⟩) = start here directory := by
  have relative := isName.isRelative
  by_cases empty : directory.text = []
  · have alsoRelative : directory.isAbsolute = false := by rw [Path.isAbsolute, empty]; rfl
    rw [Path.join_of_empty _ empty, start, start, relative, alsoRelative]
  · obtain ⟨c, more, text⟩ := List.exists_cons_of_ne_nil empty
    have sameFront : (directory.join ⟨name⟩).isAbsolute = directory.isAbsolute := by
      unfold Path.join
      rw [if_neg (by simp [relative, empty])]
      split <;> simp [Path.isAbsolute, text]
    rw [start, start, sameFront]

/-- Where a walk stands after a name that is not its last: how many links it may still follow, the
place, and the steps that a link puts before the others. -/
def pass (d : Disk) (links : Nat) (here : Place) (name : Text) :
    Except IoError (Nat × Place × List Component) :=
  if name.byteLength > nameLimit then .error .nameTooLong
  else
    match d.get? (here ++ [name]) with
    | none => .error .notFound
    | some .directory => .ok (links, here ++ [name], [])
    | some (.link target) =>
      match links with
      | 0 => .error .tooManyLinks
      | links + 1 =>
        if target.text = [] then .error .notFound
        else .ok (links, start here target, steps target)
    | some _ => .error .notADirectory

theorem walk_cons_normal {follow : Bool} {links : Nat} {rest : List Component} (more : rest ≠ []) :
    d.walk follow links here (.normal name :: rest) =
      match d.pass links here name with
      | .error e => .error e
      | .ok (left, there, steps) => d.walk follow left there (steps ++ rest) := by
  rw [walk, pass]
  by_cases long : name.byteLength > nameLimit
  · simp only [long, if_true]
  · simp only [long, if_false]
    cases d.get? (here ++ [name]) with
    | none => simp only [more, if_false]
    | some n =>
      cases n with
      | directory => rfl
      | file bytes executable => simp only [more, if_false]
      | device kind => simp only [more, if_false]
      | link target =>
        simp only [more, decide_false, Bool.false_and, Bool.false_eq_true, if_false]
        cases links with
        | zero => rfl
        | succ links =>
          by_cases empty : target.text = []
          · simp only [empty, if_true]
          · simp only [empty, if_false]

/-- Passing a name follows a link or takes a step, and then only of those that are given. -/
theorem pass_decreases {links left : Nat} {there : Place} {more : List Component}
    (passed : d.pass links here name = .ok (left, there, more)) :
    left < links ∨ left = links ∧ more = [] := by
  unfold pass at passed
  split at passed
  · cases passed
  · split at passed
    · cases passed
    · cases passed
      exact .inr ⟨rfl, rfl⟩
    · split at passed
      · cases passed
      · split at passed <;> cases passed
        exact .inl (Nat.lt_succ_self _)
    · cases passed

/-- A walk to a name first enters a directory, and how it does so depends neither on the name nor on
whether a link at the end is followed. -/
theorem walk_name (d : Disk) (links : Nat) (here : Place) (before : List Component) :
    ∃ left, ∀ follow name, d.walk follow links here (before ++ [.normal name]) =
      match d.walk true links here (before ++ [.current]) with
      | .error e => .error e
      | .ok inside => d.walk follow left inside [.normal name] := by
  -- By the links that may still be followed, and between two of them by the steps.
  induction links using Nat.strongRecOn generalizing here before with
  | ind links fewer =>
    induction before generalizing here with
    | nil =>
      refine ⟨links, fun follow name => ?_⟩
      have ends : d.walk true links here [.current] = .ok here := by rw [walk, walk]
      rw [List.nil_append, List.nil_append, ends]
    | cons step rest ih =>
      cases step with
      | root | current | parent =>
        obtain ⟨left, same⟩ := ih _
        refine ⟨left, fun follow name => ?_⟩
        rw [List.cons_append, List.cons_append, walk, same follow name]
        conv => rhs; rw [walk]
      | normal piece =>
        have more (c : Component) : rest ++ [c] ≠ [] := by simp
        simp only [List.cons_append, walk_cons_normal (more _)]
        cases passed : d.pass links here piece with
        | error e => exact ⟨0, fun _ _ => rfl⟩
        | ok next =>
          obtain ⟨left, there, steps⟩ := next
          simp only [← List.append_assoc]
          rcases pass_decreases passed with less | ⟨rfl, rfl⟩
          · exact fewer left less there (steps ++ rest)
          · exact ih there

/-! ### The directory that names are in -/

/-- The directory that names are read on from. -/
def enter (d : Disk) (here : Place) (p : Path) : Except IoError Place :=
  d.walk true linkLimit (start here p) (way p ++ [.current])

/-- A name that is short enough, on a path that is no fault in itself. -/
def Fits (directory : Path) (name : Text) : Prop :=
  pathFault? (directory.join ⟨name⟩) = none ∧ name.byteLength ≤ nameLimit

/-- Without links followed, a name leads to its place, be there something or not. -/
theorem walk_single (d : Disk) (links : Nat) (inside : Place) (name : Text) :
    d.walk false links inside [.normal name] =
      if name.byteLength > nameLimit then .error .nameTooLong else .ok (inside ++ [name]) := by
  rw [walk]
  split
  · rfl
  · cases d.get? (inside ++ [name]) with
    | none => rfl
    | some n => cases n <;> first | rfl | rw [walk]

theorem locateNew_join {follow : Bool} (isName : Path.IsName name) :
    d.locateNew follow here (directory.join ⟨name⟩) =
      d.locate follow here (directory.join ⟨name⟩) := by
  -- The path ends as the name does, and that is with no slash.
  have notSlash : endsInSlash (directory.join ⟨name⟩) = false := by
    have isLast := List.getLast?_eq_some_getLast isName.nonempty
    have last : (directory.join ⟨name⟩).text.getLast? = name.getLast? := by
      unfold Path.join
      split
      · rfl
      · split <;> simp [List.getLast?_append, List.getLast?_cons, isLast]
    apply Bool.eq_false_iff.mpr
    intro ended
    rw [endsInSlash, last, beq_iff_eq] at ended
    exact isName.withoutSlash (List.mem_of_getLast? ended)
  rw [locateNew, notSlash, Bool.false_and, if_neg Bool.false_ne_true]

/-- The place of a name is in the directory that it is read on from, if that can be entered. -/
theorem locateNew_join_iff (isName : Path.IsName name) :
    d.locateNew false here (directory.join ⟨name⟩) = .ok place ↔
      Fits directory name ∧ ∃ inside, d.enter here directory = .ok inside ∧
        place = inside ++ [name] := by
  obtain ⟨left, same⟩ := d.walk_name linkLimit (start here directory) (way directory)
  rw [locateNew_join isName, locate, Fits]
  cases pathFault? (directory.join ⟨name⟩) with
  | some e => simp
  | none =>
    simp only [steps_join isName, start_join isName, same, enter, true_and]
    cases d.walk true linkLimit (start here directory) (way directory ++ [.current]) with
    | error e => simp
    | ok inside =>
      simp only [walk_single]
      by_cases long : name.byteLength > nameLimit
      · have tooLong : ¬ name.byteLength ≤ nameLimit := Nat.not_le_of_lt long
        simp [long, tooLong]
      · simp [long, Nat.le_of_not_lt long, eq_comm]

/-- A directory is entered as before when a file is put where none is in the way. -/
theorem enter_put {inside : Place} {bytes : Bytes} {executable : Bool} (takes : d.TakesFile place)
    (entered : d.enter here directory = .ok inside) :
    (d.put place (.file bytes executable)).enter here directory = .ok inside :=
  walk_put takes entered

theorem hasEntry_join_iff (isName : Path.IsName name) :
    d.HasEntry here (directory.join ⟨name⟩) ↔
      Fits directory name ∧ ∃ inside n, d.enter here directory = .ok inside ∧
        d.get? (inside ++ [name]) = some n := by
  unfold HasEntry
  constructor
  · rintro ⟨place, n, located, stands⟩
    obtain ⟨fits, inside, entered, rfl⟩ := (locateNew_join_iff isName).mp located
    exact ⟨fits, inside, n, entered, stands⟩
  · rintro ⟨fits, inside, n, entered, stands⟩
    exact ⟨_, n, (locateNew_join_iff isName).mpr ⟨fits, inside, entered, rfl⟩, stands⟩

/-- What a name leads to is reached through something that stands under the name. -/
theorem hasEntry_of_leadsSomewhere (isName : Path.IsName name)
    (leads : d.LeadsSomewhere here (directory.join ⟨name⟩)) :
    d.HasEntry here (directory.join ⟨name⟩) := by
  obtain ⟨place, n, found⟩ := leads
  obtain ⟨left, same⟩ := d.walk_name linkLimit (start here directory) (way directory)
  rw [hasEntry_join_iff isName, Fits, enter]
  unfold find locate at found
  cases fault : pathFault? (directory.join ⟨name⟩) with
  | some e =>
    rw [fault] at found
    cases found
  | none =>
    simp only [fault, steps_join isName, start_join isName, same] at found
    cases entered : d.walk true linkLimit (start here directory) (way directory ++ [.current]) with
    | error e =>
      rw [entered] at found
      cases found
    | ok inside =>
      simp only [entered, walk] at found
      by_cases long : name.byteLength > nameLimit
      · simp [long] at found
      · refine ⟨⟨rfl, Nat.le_of_not_lt long⟩, inside, ?_⟩
        cases stands : d.get? (inside ++ [name]) with
        | none => simp [long, stands] at found
        | some n => exact ⟨n, rfl, rfl⟩

/-- A name leads to what stands under it in the directory that it is read on from, unless that is a
link. -/
theorem find_join {inside : Place} {n : Node} (isName : Path.IsName name)
    (entered : d.enter here directory = .ok inside) (fits : Fits directory name)
    (stands : d.get? (inside ++ [name]) = some n) (notLink : ∀ target, n ≠ .link target) :
    d.find here (directory.join ⟨name⟩) = .ok (inside ++ [name], n) := by
  obtain ⟨left, same⟩ := d.walk_name linkLimit (start here directory) (way directory)
  have short : ¬ name.byteLength > nameLimit := Nat.not_lt.mpr fits.2
  have ends : d.walk true left inside [.normal name] = .ok (inside ++ [name]) := by
    rw [walk, if_neg short, stands]
    cases n with
    | link target => exact absurd rfl (notLink target)
    | directory =>
      dsimp only
      rw [walk]
    | file | device => rfl
  rw [enter] at entered
  have located : d.locate true here (directory.join ⟨name⟩) = .ok (inside ++ [name]) := by
    simp only [locate, fits.1, steps_join isName, start_join isName, same, entered, ends]
  simp only [find, located, stands]

/-! ### Directories that paths lead to -/

theorem walk_append_current {links : Nat} {way : List Component}
    (isDirectory : d.get? place = some .directory) (ends : d.walk true links here way = .ok place) :
    d.walk true links here (way ++ [.current]) = .ok place := by
  -- The longer walk takes the same steps, and at the directory it takes one more, which stays there.
  fun_induction walk d true links here way with
  | case1 =>
    cases ends
    rw [List.nil_append, walk, walk]
  | case2 links here rest ih | case3 links here rest ih | case4 links here rest ih =>
    rw [List.cons_append, walk]
    exact ih ends
  | case5 => cases ends
  | case6 links here name short free =>
    cases ends
    cases free.symm.trans isDirectory
  | case7 => cases ends
  | case8 links here name rest short stands ih =>
    rw [List.cons_append, walk, if_neg short, stands]
    exact ih ends
  | case9 links here name rest short target stands last => simp at last
  | case10 => cases ends
  | case11 => cases ends
  | case12 here name rest short target stands notLast links nonempty ih =>
    rw [List.cons_append, walk, if_neg short, stands]
    simp only [Bool.not_true, Bool.and_false, Bool.false_eq_true, nonempty, if_false]
    rw [← List.append_assoc]
    exact ih ends
  | case13 links here name short n notDirectory notLink stands =>
    cases ends
    cases stands.symm.trans isDirectory
    exact absurd rfl notDirectory
  | case14 => cases ends

/-- A path to a directory enters that directory. -/
theorem enter_of_find (found : d.find here directory = .ok (place, .directory)) :
    d.enter here directory = .ok place := by
  unfold find locate at found
  cases fault : pathFault? directory with
  | some e =>
    rw [fault] at found
    cases found
  | none =>
    have nonempty : directory.text ≠ [] := by
      intro empty
      simp [pathFault?, empty] at fault
    simp only [fault] at found
    cases ends : d.walk true linkLimit (start here directory) (steps directory) with
    | error e => simp [ends] at found
    | ok q =>
      cases stands : d.get? q with
      | none => simp [ends, stands] at found
      | some n =>
        simp only [ends, stands] at found
        cases found
        rw [enter]
        -- A slash at the end has asked for a directory; without one the last step is added.
        by_cases ended : directory.text.getLast? = some '/'
        · obtain ⟨front, text⟩ := List.getLast?_eq_some_iff.mp ended
          have whole : directory = ⟨front ++ ['/']⟩ := congrArg Path.mk text
          rw [whole, steps_append_last_slash] at ends
          rw [whole, way_append_last_slash, ends]
        · rw [way, if_neg nonempty, if_neg ended]
          exact walk_append_current stands ends

theorem mem_namesBelow {n : Node} (stands : d.get? (place ++ [name]) = some n) :
    name ∈ d.namesBelow place := by
  have listed : d.entries.lookup (place ++ [name]) = some n := by
    rwa [get?, if_neg (by simp)] at stands
  obtain ⟨before, after, entries, _⟩ := List.lookup_eq_some_iff.mp listed
  refine List.mem_filterMap.mpr ⟨(place ++ [name], n), by rw [entries]; simp, ?_⟩
  simp [nameBelow?]

end Disk

end HttpCascade
