import HttpCascade.Proofs.Curl.Arguments

/-!
# What a cURL command sends

What curl does with its arguments, as far as the options of a request go: `-X` sets the method,
which otherwise is `POST` if there is data and `GET` if there is none, and `-d` gives data, either
itself or, after an at sign, as the name of a file. The command of a request leaves the method to
curl if it is `GET`, and it hands over the body as it is. So it sends the method and the body of the
request exactly if a `GET` has no body, no body starts with an at sign, and the URL is not taken for
an option (`sends_request_iff`).
-/

namespace HttpCascade.Curl

open ShellWords

/-! ### What the arguments mean -/

/-- What an argument of curl says. -/
inductive Setting where
  | method (name : Text)
  | header (line : Text)
  | data (argument : Text)
  | url (address : Text)
  deriving DecidableEq, Repr

/-- What arguments say. An option takes the argument after it; an argument with a dash in front is an
option, and of others than these three nothing is said. -/
def settings? : List Text → Option (List Setting)
  | [] => some []
  | ['-', 'X'] :: name :: rest => (settings? rest).map (.method name :: ·)
  | ['-', 'H'] :: line :: rest => (settings? rest).map (.header line :: ·)
  | ['-', 'd'] :: argument :: rest => (settings? rest).map (.data argument :: ·)
  | argument :: rest =>
    if argument.head? = some '-' then none else (settings? rest).map (.url argument :: ·)

/-- What is sent for the argument of `-d`. -/
inductive Payload where
  | text (t : Text)
  /-- What a file holds. -/
  | file (name : Text)
  deriving DecidableEq, Repr

def payload : Text → Payload
  | '@' :: name => .file name
  | argument => .text argument

/-- The data that is sent, a piece for each `-d`. -/
def payloads (settings : List Setting) : List Payload :=
  settings.filterMap fun
    | .data argument => some (payload argument)
    | _ => none

/-- The methods that are set; the last one counts. -/
def methods (settings : List Setting) : List Text :=
  settings.filterMap fun
    | .method name => some name
    | _ => none

/-- The method that is used. -/
def methodUsed (settings : List Setting) : Text :=
  (methods settings).getLast?.getD (if payloads settings = [] then "GET" else "POST")

/-- A text that a shell reads as a call of curl that uses the method of a request, in any case, and
sends its body. -/
def Sends (t : Text) (r : Request) : Prop :=
  ∃ words call settings, read t = some [words] ∧ words.map value = "curl".toList :: call ∧
    settings? call = some settings ∧
    Text.equalsIgnoringCase (methodUsed settings) r.method = true ∧
    payloads settings = if r.body = [] then [] else [.text r.body]

theorem payload_eq_text_iff {body : Text} : payload body = .text body ↔ body.head? ≠ some '@' := by
  unfold payload
  split
  · simp
  next notAt =>
    simp only [true_iff]
    intro at_
    obtain ⟨rest, eq⟩ := List.head?_eq_some_iff.mp at_
    exact notAt rest eq

/-! ### What the arguments of a request mean -/

/-- What an option says. -/
def settingOf (o : Char × Text) : Setting :=
  if o.1 = 'X' then .method o.2 else if o.1 = 'H' then .header o.2 else .data o.2

theorem settings?_options {os : List (Char × Text)} (known : ∀ o ∈ os, o.1 ∈ ['X', 'H', 'd'])
    (url : Text) :
    settings? (os.flatMap (fun o => [['-', o.1], o.2]) ++ [url]) =
      if url.head? = some '-' then none else some (os.map settingOf ++ [.url url]) := by
  induction os with
  | nil => simp [settings?]
  | cons o rest ih =>
    obtain ⟨first, others⟩ := List.forall_mem_cons.mp known
    have tail := ih others
    obtain ⟨name, argument⟩ := o
    simp only [List.mem_cons, List.not_mem_nil, or_false] at first
    rcases first with rfl | rfl | rfl
    all_goals
      simp only [List.flatMap_cons, List.cons_append, List.nil_append, settings?, tail]
      split <;> simp [settingOf]

/-- What the arguments of a request say. -/
def settings (r : Request) : List Setting := (options r).map settingOf ++ [.url r.url]

theorem methods_settings (r : Request) :
    methods (settings r) = if r.verb? = some .get then [] else [r.method] := by
  unfold methods settings options
  split <;> split <;> simp [settingOf, List.filterMap_map, Function.comp_def]

theorem payloads_settings (r : Request) :
    payloads (settings r) = if r.body = [] then [] else [payload r.body] := by
  unfold payloads settings options
  split <;> split <;> simp [settingOf, List.filterMap_map, Function.comp_def]

/-- The two forms of a command send the same. -/
theorem sends_iff_settings {r : Request} {t : Text} (isCommand : t = command r ∨ t = compact r) :
    Sends t r ↔ r.url.head? ≠ some '-' ∧
      Text.equalsIgnoringCase (methodUsed (settings r)) r.method = true ∧
      payloads (settings r) = if r.body = [] then [] else [.text r.body] := by
  have reads : read t = some [words r] := by
    rcases isCommand with rfl | rfl
    · exact read_command r
    · exact read_compact r
  have call := settings?_options (option_name (r := r)) r.url
  constructor
  · rintro ⟨ws, args, said, isRead, isCall, isSettings, sameMethod, sameBody⟩
    cases reads.symm.trans isRead
    rw [value_words, arguments, List.cons_append, List.cons.injEq] at isCall
    rw [← isCall.2, call] at isSettings
    split at isSettings
    · cases isSettings
    next notOption =>
      cases isSettings
      exact ⟨notOption, sameMethod, sameBody⟩
  · rintro ⟨notOption, sameMethod, sameBody⟩
    rw [if_neg notOption] at call
    exact ⟨words r, _, settings r, reads, value_words r, call, sameMethod, sameBody⟩

theorem methodUsed_settings {r : Request} {verb : Method} (isVerb : r.verb? = some verb) :
    Text.equalsIgnoringCase (methodUsed (settings r)) r.method = true ↔
      r.body = [] ∨ verb ≠ .get := by
  have named : Text.equalsIgnoringCase verb.name.toList r.method = true :=
    Method.ofText?_eq_some isVerb
  rw [methodUsed, methods_settings, payloads_settings, isVerb]
  by_cases isGet : verb = .get
  -- No method is set, so the one that is used depends on the data.
  · subst isGet
    have lower : r.method.toLowerAscii = "get".toList := (beq_iff_eq.mp named).symm
    by_cases empty : r.body = []
    · simp [empty, Text.equalsIgnoringCase, lower]
      decide
    · simp [empty, Text.equalsIgnoringCase, lower]
      decide
  · have differs : some verb ≠ some .get := fun same => isGet (Option.some.inj same)
    simp [isGet, Text.equalsIgnoringCase]

/-- A request is sent as it is exactly if a `GET` has no body, the body names no file and the URL is
no option. -/
theorem sends_request_iff {r : Request} {verb : Method} (isVerb : r.verb? = some verb) {t : Text}
    (isCommand : t = command r ∨ t = compact r) :
    Sends t r ↔ r.url.head? ≠ some '-' ∧
      (r.body = [] ∨ verb ≠ .get ∧ r.body.head? ≠ some '@') := by
  rw [sends_iff_settings isCommand, methodUsed_settings isVerb, payloads_settings]
  by_cases empty : r.body = []
  · simp [empty]
  · simp [empty, payload_eq_text_iff]

/-- An at sign inside of the body, a quote and a method in lower case come to no harm. -/
theorem sends_request_quoted_body :
    let r : Request := ⟨"post", "http://h", .ofList [("A", "b")], "it's @f"⟩
    r.verb? = some .post ∧ Sends (command r) r := by
  intro r
  have isVerb : r.verb? = some .post := by decide
  exact ⟨isVerb, (sends_request_iff isVerb (Or.inl rfl)).mpr ⟨by decide, Or.inr (by decide)⟩⟩

/-- A `GET` with a body is sent as a `POST`. -/
theorem not_every_request_is_sent :
    ¬ ∀ (r : Request) (verb : Method), r.verb? = some verb → Sends (command r) r := by
  intro all
  let r : Request := ⟨"GET", "http://h", ∅, "a"⟩
  have sends : Sends (command r) r := all r .get (by decide)
  obtain ⟨_, sameMethod, _⟩ := (sends_iff_settings (Or.inl rfl)).mp sends
  revert sameMethod
  decide

end HttpCascade.Curl
