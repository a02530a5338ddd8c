import HttpCascade.Shell.Command

/-!
# Reading shell commands

A script is read a line of commands at a time, so that what stands before a fault is still carried
out. A here-document is taken out of the text as soon as its redirection is read. Every reader has a
bound on its depth that the length of the text keeps out of reach.
-/

namespace HttpCascade.Shell

/-- What is left of a script. -/
structure Source where
  rest : Text
  /-- The number of the line that is read. -/
  line : Nat
  /-- The lines of here-documents that belong before the next line. -/
  skipped : Nat := 0

/-- Why a script cannot be read on. -/
structure ReadFault where
  line : Nat
  message : Text
  deriving DecidableEq, Repr

abbrev Read := StateT Source (Except ReadFault)

namespace Read

def fail {α : Type} (message : Text) : Read α := fun s => .error ⟨s.line, message⟩

def rest : Read Text := return (← get).rest

/-- Takes a character. -/
def advance : Read Unit :=
  modify fun s =>
    match s.rest with
    | '\n' :: rest => ⟨rest, s.line + 1 + s.skipped, 0⟩
    | _ :: rest => { s with rest }
    | [] => s

/-- Takes some characters. -/
def advanceBy : Nat → Read Unit
  | 0 => return
  | n + 1 => do
    advance
    advanceBy n

/-- Takes blanks, escaped line breaks and a comment. -/
def skipBlanksIn : Nat → Read Unit
  | 0 => return
  | n + 1 => do
    match ← rest with
    | ' ' :: _ | '\t' :: _ => advance; skipBlanksIn n
    | '\\' :: '\n' :: _ => advanceBy 2; skipBlanksIn n
    | '#' :: text => advanceBy (1 + (text.takeWhile (· ≠ '\n')).length)
    | _ => return

def skipBlanks : Read Unit := do skipBlanksIn ((← rest).length + 1)

/-- Takes blanks and line breaks. -/
def skipNewlinesIn : Nat → Read Unit
  | 0 => return
  | n + 1 => do
    skipBlanks
    match ← rest with
    | '\n' :: _ => advance; skipNewlinesIn n
    | _ => return

def skipNewlines : Read Unit := do skipNewlinesIn ((← rest).length + 1)

end Read

/-! ### Tokens -/

/-- A character that ends a word. -/
def endsWord (c : Char) : Bool :=
  c ∈ [' ', '\t', '\n', ';', '&', '|', '<', '>', '(', ')']

def isPlain (c : Char) : Bool := !endsWord c && c ∉ ['\\', '\'', '"', '$', '\x60']

/-- The word at the front if nothing in it is quoted or expanded. -/
def plainWord? (t : Text) : Option Text :=
  let word := t.takeWhile isPlain
  match t.drop word.length with
  | [] => if word = [] then none else some word
  | c :: _ => if word ≠ [] && endsWord c then some word else none

def keywords : List String :=
  ["!", "\x7b", "\x7d", "case", "do", "done", "elif", "else", "esac", "fi", "for", "if", "in", "then",
    "until", "while"]

/-- The keywords that end a list of commands. -/
def closers : List String := ["\x7d", "do", "done", "elif", "else", "esac", "fi", "then"]

def keyword? (t : Text) : Option String :=
  (plainWord? t).bind fun word => keywords.find? fun k => k.toList = word

def inQuotes (s : String) : String := "\"" ++ s ++ "\""

/-- The descriptor and the text of a redirection at the front. -/
def redirectionStart? (t : Text) : Option (Option Nat × Text) :=
  match t.dropWhile Char.isDigit with
  | '<' :: rest => some (decimal? (t.takeWhile Char.isDigit), '<' :: rest)
  | '>' :: rest => some (decimal? (t.takeWhile Char.isDigit), '>' :: rest)
  | _ => none

/-- How a fault calls the token at the front. -/
def tokenName (asKeyword : Bool) (t : Text) : String :=
  match t with
  | [] => "end of file"
  | '\n' :: _ => "newline"
  | ';' :: ';' :: _ => inQuotes ";;"
  | ';' :: _ => inQuotes ";"
  | '&' :: '&' :: _ => inQuotes "&&"
  | '&' :: _ => inQuotes "&"
  | '|' :: '|' :: _ => inQuotes "||"
  | '|' :: _ => inQuotes "|"
  | '(' :: _ => inQuotes "("
  | ')' :: _ => inQuotes ")"
  | _ =>
    if (redirectionStart? t).isSome then "redirection"
    else
      match (if asKeyword then keyword? t else none) with
      | some k => inQuotes k
      | none => "word"

namespace Read

def unexpected {α : Type} (asKeyword : Bool) (expected : String) : Read α := do
  skipBlanks
  let t ← rest
  if t.head? = some '\n' then advance
  fail (("Syntax error: " ++ tokenName asKeyword t ++ " unexpected" ++
    (if expected = "" then "" else " (expecting " ++ expected ++ ")")).toList)

/-- Takes a keyword that has to come. -/
def expectKeyword (k : String) : Read Unit := do
  skipBlanks
  if keyword? (← rest) = some k then advanceBy k.length
  else unexpected true (inQuotes k)

/-- Takes a closing parenthesis that has to come. -/
def expectClose : Read Unit := do
  skipBlanks
  match ← rest with
  | ')' :: _ => advance
  | _ => unexpected true (inQuotes ")")

end Read

open Read

/-! ### Words -/

/-- Adds a text to parts that are given in reverse. -/
def pushText (t : Text) (quoted : Bool) : List Part → List Part
  | .text before q :: rest =>
    if q == quoted then .text (before ++ t) q :: rest else .text t quoted :: .text before q :: rest
  | parts => .text t quoted :: parts

/-- The text of a word without its quotes if nothing in it is expanded. -/
def literal? : Word → Option Text
  | [] => some []
  | .text t _ :: rest => (literal? rest).map (t ++ ·)
  | _ => none

def isQuoted (w : Word) : Bool :=
  w.any fun (p : Part) => match p with
    | .text _ quoted => quoted
    | _ => true

/-- The use of a parameter that the text after its name asks for, and how long its sign is. -/
def parameterUse (t : Text) : ParameterUse × Nat :=
  match t with
  | ':' :: '-' :: _ => (.default true, 2)
  | ':' :: '=' :: _ => (.assign true, 2)
  | ':' :: '?' :: _ => (.require true, 2)
  | ':' :: '+' :: _ => (.alternative true, 2)
  | '-' :: _ => (.default false, 1)
  | '=' :: _ => (.assign false, 1)
  | '?' :: _ => (.require false, 1)
  | '+' :: _ => (.alternative false, 1)
  | '%' :: '%' :: _ => (.dropEnd true, 2)
  | '%' :: _ => (.dropEnd false, 1)
  | '#' :: '#' :: _ => (.dropStart true, 2)
  | '#' :: _ => (.dropStart false, 1)
  | _ => (.bad, 0)

def isSpecial (c : Char) : Bool := c ∈ ['@', '*', '#', '?', '-', '$', '!']

/-- The name of a parameter at the front. -/
def parameterName (t : Text) : Text :=
  match t with
  | [] => []
  | c :: _ =>
    if c.isDigit then t.takeWhile Char.isDigit
    else if isSpecial c then [c]
    else t.takeWhile isNameChar

/-- The text of a command between back quotes, and how long it is in the script. -/
def backquoted : Text → Option (Text × Nat)
  | [] => none
  | '\x60' :: _ => some ([], 1)
  | '\\' :: c :: rest =>
    (backquoted rest).map fun (t, n) =>
      (if c ∈ ['\x60', '\\', '$'] then c :: t else '\\' :: c :: t, n + 2)
  | c :: rest => (backquoted rest).map fun (t, n) => (c :: t, n + 1)

/-- The lines up to a delimiter, and what follows it. Each line ends as it does in the text. -/
def hereLines (delimiter : Text) (dropTabs : Bool) : List Text → Text × List Text
  | [] => ([], [])
  | line :: rest =>
    let line := if dropTabs then line.dropWhile (· == '\t') else line
    if line = delimiter then ([], rest)
    else if rest = [] then (line, [])
    else
      let (body, after) := hereLines delimiter dropTabs rest
      (line ++ '\n' :: body, after)

/-- Takes a here-document out of the lines after the one that is read. -/
def takeHere (delimiter : Text) (dropTabs : Bool) : Read Text := fun s =>
  let current := s.rest.takeWhile (· ≠ '\n')
  match s.rest.drop current.length with
  | [] => .ok ([], s)
  | _ :: below =>
    let lines := Text.splitAll '\n' below
    let (body, after) := hereLines delimiter dropTabs lines
    let taken := lines.length - after.length
    .ok (body,
      { s with
        rest := current ++ '\n' :: Text.join ['\n'] after
        skipped := s.skipped + taken })

/-- The name and the start of the value of an assignment. -/
def assignment? : Word → Option (Text × Word)
  | .text t false :: rest =>
    match t.splitOnce '=' with
    | some (name, value) =>
      if isName name then some (name, if value = [] then rest else .text value false :: rest)
      else none
    | none => none
  | _ => none

mutual

/-- The parts of a word up to its end. -/
def wordParts (fuel : Nat) (before : List Part) : Read Word :=
  match fuel with
  | 0 => return before.reverse
  | fuel + 1 => do
    match ← rest with
    | [] => return before.reverse
    | '\\' :: '\n' :: _ => advanceBy 2; wordParts fuel before
    | '\\' :: c :: _ => advanceBy 2; wordParts fuel (pushText [c] true before)
    | '\'' :: t =>
      let inside := t.takeWhile (· ≠ '\'')
      advanceBy (1 + inside.length)
      if (← rest) = [] then fail "Syntax error: Unterminated quoted string"
      advance
      wordParts fuel (pushText inside true before)
    | '"' :: _ =>
      advance
      let parts ← quotedParts fuel true (pushText [] true before)
      wordParts fuel parts
    | '$' :: _ =>
      advance
      let part ← dollar fuel false
      wordParts fuel (part :: before)
    | '\x60' :: _ =>
      advance
      let part ← backquote fuel false
      wordParts fuel (part :: before)
    | c :: _ =>
      if endsWord c then return before.reverse
      advance
      wordParts fuel (pushText [c] false before)

/-- The parts up to a double quote, or to the end of a here-document, in reverse. -/
def quotedParts (fuel : Nat) (untilQuote : Bool) (before : List Part) : Read (List Part) :=
  match fuel with
  | 0 => return before
  | fuel + 1 => do
    match ← rest with
    | [] =>
      if untilQuote then fail "Syntax error: Unterminated quoted string"
      return before
    | '\\' :: '\n' :: _ => advanceBy 2; quotedParts fuel untilQuote before
    | '\\' :: c :: _ =>
      advanceBy 2
      let escaped := c ∈ ['$', '\x60', '\\'] || (c == '"' && untilQuote)
      quotedParts fuel untilQuote (pushText (if escaped then [c] else ['\\', c]) true before)
    | '$' :: _ =>
      advance
      let part ← dollar fuel true
      quotedParts fuel untilQuote (part :: before)
    | '\x60' :: _ =>
      advance
      let part ← backquote fuel true
      quotedParts fuel untilQuote (part :: before)
    | c :: _ =>
      advance
      if c = '"' && untilQuote then return before
      quotedParts fuel untilQuote (pushText [c] true before)

/-- What follows a dollar sign. -/
def dollar (fuel : Nat) (quoted : Bool) : Read Part :=
  match fuel with
  | 0 => fail "Syntax error: too deep"
  | fuel + 1 => do
    match ← rest with
    | '(' :: '(' :: _ =>
      advanceBy 2
      return .arithmetic (← arithmeticParts fuel 0 []) quoted
    | '(' :: _ =>
      advance
      let commands ← commandList fuel true
      expectClose
      return .substitution commands quoted
    | '\x7b' :: _ =>
      advance
      braced fuel quoted
    | c :: t =>
      if c.isDigit || isSpecial c then
        advance
        return .parameter [c] .value [] quoted
      else if isNameChar c then
        let name := (c :: t).takeWhile isNameChar
        advanceBy name.length
        return .parameter name .value [] quoted
      else return .text ['$'] quoted
    | [] => return .text ['$'] quoted

/-- A parameter between braces. -/
def braced (fuel : Nat) (quoted : Bool) : Read Part :=
  match fuel with
  | 0 => fail "Syntax error: too deep"
  | fuel + 1 => do
    let t ← rest
    let measured := parameterName (t.drop 1)
    if t.head? = some '#' && measured ≠ [] && (t.drop (1 + measured.length)).head? = some '\x7d' then
      advanceBy (measured.length + 2)
      return .parameter measured .length [] quoted
    let name := parameterName t
    advanceBy name.length
    match ← rest with
    | '\x7d' :: _ =>
      advance
      return .parameter name (if name = [] then .bad else .value) [] quoted
    | after =>
      let (use, length) := parameterUse after
      advanceBy length
      if after.head? = some '\n' then modify fun s => { s with line := s.line - 1 }
      let trims := match use with
        | .dropEnd _ | .dropStart _ => true
        | _ => false
      let argument ← bracedParts fuel (quoted && !trims) []
      return .parameter name (if name = [] then .bad else use) argument quoted

/-- The parts up to a closing brace. -/
def bracedParts (fuel : Nat) (quoted : Bool) (before : List Part) : Read Word :=
  match fuel with
  | 0 => return before.reverse
  | fuel + 1 => do
    match ← rest with
    | [] =>
      fail (if quoted then "Syntax error: Unterminated quoted string"
        else "Syntax error: Missing '\x7d'")
    | '\x7d' :: _ =>
      advance
      return before.reverse
    | '\\' :: c :: _ =>
      advanceBy 2
      let escaped := !quoted || c ∈ ['$', '\x60', '"', '\\', '\x7d']
      bracedParts fuel quoted (pushText (if escaped then [c] else ['\\', c]) true before)
    | '"' :: _ =>
      advance
      let parts ← quotedParts fuel true (pushText [] true before)
      bracedParts fuel quoted parts
    | '$' :: _ =>
      advance
      let part ← dollar fuel quoted
      bracedParts fuel quoted (part :: before)
    | '\x60' :: _ =>
      advance
      let part ← backquote fuel quoted
      bracedParts fuel quoted (part :: before)
    | c :: t =>
      if c = '\'' && !quoted then
        let inside := t.takeWhile (· ≠ '\'')
        advanceBy (1 + inside.length)
        if (← rest) = [] then fail "Syntax error: Unterminated quoted string"
        advance
        bracedParts fuel quoted (pushText inside true before)
      else
        advance
        bracedParts fuel quoted (pushText [c] quoted before)

/-- The parts of an arithmetic expression, up to two closing parentheses. -/
def arithmeticParts (fuel : Nat) (depth : Nat) (before : List Part) : Read Word :=
  match fuel with
  | 0 => return before.reverse
  | fuel + 1 => do
    match ← rest with
    | [] => fail "Syntax error: Missing '))'"
    | '(' :: _ =>
      advance
      arithmeticParts fuel (depth + 1) (pushText ['('] true before)
    | ')' :: t =>
      match depth with
      | depth + 1 =>
        advance
        arithmeticParts fuel depth (pushText [')'] true before)
      | 0 =>
        if t.head? = some ')' then
          advanceBy 2
          return before.reverse
        else
          advance
          arithmeticParts fuel 0 (pushText [')'] true before)
    | '\\' :: '\n' :: _ => advanceBy 2; arithmeticParts fuel depth before
    | '"' :: _ => advance; arithmeticParts fuel depth before
    | '$' :: _ =>
      advance
      let part ← dollar fuel true
      arithmeticParts fuel depth (part :: before)
    | '\x60' :: _ =>
      advance
      let part ← backquote fuel true
      arithmeticParts fuel depth (part :: before)
    | c :: _ =>
      advance
      arithmeticParts fuel depth (pushText [c] true before)

/-- A command between back quotes. -/
def backquote (fuel : Nat) (quoted : Bool) : Read Part :=
  match fuel with
  | 0 => fail "Syntax error: too deep"
  | fuel + 1 => do
    match backquoted (← rest) with
    | none =>
      advanceBy (← rest).length
      fail "Syntax error: EOF in backquote substitution"
    | some (inside, length) =>
      let outer ← get
      set { outer with rest := inside }
      let commands ← commandList fuel true
      skipBlanks
      if (← rest) ≠ [] then unexpected true ""
      set outer
      advanceBy length
      return .substitution commands quoted

/-- A word, if one comes. -/
def word? (fuel : Nat) : Read (Option Word) :=
  match fuel with
  | 0 => return none
  | fuel + 1 => do
    skipBlanks
    match ← rest with
    | [] => return none
    | c :: _ => if endsWord c then return none else return some (← wordParts fuel [])

/-- A redirection, if one comes. -/
def redirection? (fuel : Nat) : Read (Option Redirection) :=
  match fuel with
  | 0 => return none
  | fuel + 1 => do
    skipBlanks
    let t ← rest
    match redirectionStart? t with
    | none => return none
    | some (descriptor, operator) =>
      advanceBy (t.length - operator.length)
      match operator with
      | '<' :: '<' :: '-' :: _ =>
        advanceBy 3
        return some (← hereDocument fuel (descriptor.getD 0) true)
      | '<' :: '<' :: _ =>
        advanceBy 2
        return some (← hereDocument fuel (descriptor.getD 0) false)
      | '<' :: '&' :: _ => return some (← target fuel 2 (descriptor.getD 0) .duplicate)
      | '<' :: '>' :: _ => return some (← target fuel 2 (descriptor.getD 0) .readWrite)
      | '<' :: _ => return some (← target fuel 1 (descriptor.getD 0) .read)
      | '>' :: '>' :: _ => return some (← target fuel 2 (descriptor.getD 1) .append)
      | '>' :: '&' :: _ => return some (← target fuel 2 (descriptor.getD 1) .duplicate)
      | '>' :: '|' :: _ => return some (← target fuel 2 (descriptor.getD 1) .overwrite)
      | _ => return some (← target fuel 1 (descriptor.getD 1) .write)

/-- A redirection whose operator has a length, with the word that says where it leads. -/
def target (fuel : Nat) (length : Nat) (descriptor : Nat) (kind : RedirectionKind) :
    Read Redirection :=
  match fuel with
  | 0 => fail "Syntax error: too deep"
  | fuel + 1 => do
    advanceBy length
    match ← word? fuel with
    | some w => return .mk descriptor kind w
    | none => unexpected false ""

/-- A here-document: the word that ends it, and its text. -/
def hereDocument (fuel : Nat) (descriptor : Nat) (dropTabs : Bool) : Read Redirection :=
  match fuel with
  | 0 => fail "Syntax error: too deep"
  | fuel + 1 => do
    match ← word? fuel with
    | none => unexpected false ""
    | some w =>
      let body ← takeHere ((literal? w).getD []) dropTabs
      if isQuoted w then return .mk descriptor .here [.text body true]
      let outer ← get
      set { outer with rest := body }
      let parts ← quotedParts fuel false []
      set outer
      return .mk descriptor .here parts.reverse

/-- The redirections that follow. -/
def redirections (fuel : Nat) : Read (List Redirection) :=
  match fuel with
  | 0 => return []
  | fuel + 1 => do
    match ← redirection? fuel with
    | none => return []
    | some r => return r :: (← redirections fuel)

/-- The words up to the end of the line. -/
def words (fuel : Nat) : Read (List Word) :=
  match fuel with
  | 0 => return []
  | fuel + 1 => do
    match ← word? fuel with
    | none => return []
    | some w => return w :: (← words fuel)

/-- A name with arguments: what has been read of it, each list in reverse. -/
def simpleCommand (fuel : Nat) (line : Nat) (assignments : List (Text × Word))
    (before : List Word) (leading : List Redirection) : Read Command :=
  match fuel with
  | 0 => fail "Syntax error: too deep"
  | fuel + 1 => do
    match ← redirection? fuel with
    | some r => simpleCommand fuel line assignments before (r :: leading)
    | none =>
      match ← word? fuel with
      | some w =>
        match (if before.isEmpty then assignment? w else none) with
        | some a => simpleCommand fuel line (a :: assignments) before leading
        | none => simpleCommand fuel line assignments (w :: before) leading
      | none =>
        match ← rest, before, assignments, leading with
        | '(' :: _, [w], [], [] =>
          advance
          expectClose
          match literal? w with
          | some name =>
            if isName name then
              skipNewlines
              return .definition name (← command fuel)
            else fail "Syntax error: Bad function name"
          | none => fail "Syntax error: Bad function name"
        | '(' :: _, _, _, _ => unexpected false ""
        | _, _, _, _ =>
          return .simple line assignments.reverse before.reverse leading.reverse

/-- A single command. -/
def command (fuel : Nat) : Read Command :=
  match fuel with
  | 0 => fail "Syntax error: too deep"
  | fuel + 1 => do
    skipBlanks
    let t ← rest
    match t with
    | '(' :: _ =>
      advance
      let body ← commandList fuel false
      expectClose
      withRedirections fuel (.subshell (.sequence body))
    | _ =>
      match keyword? t with
      | some k =>
        if k = "if" then
          advanceBy 2
          withRedirections fuel (← conditional fuel)
        else if k = "while" || k = "until" then
          advanceBy 5
          let condition ← commandList fuel false
          expectKeyword "do"
          let body ← commandList fuel false
          expectKeyword "done"
          withRedirections fuel (.loop (k = "until") (.sequence condition) (.sequence body))
        else if k = "for" then
          advanceBy 3
          withRedirections fuel (← iteration fuel)
        else if k = "case" then
          advanceBy 4
          withRedirections fuel (← choice fuel)
        else if k = "\x7b" then
          advance
          let body ← commandList fuel false
          expectKeyword "\x7d"
          withRedirections fuel (.sequence body)
        else unexpected true ""
      | none =>
        match t with
        | [] => unexpected true ""
        | c :: _ =>
          if endsWord c && (redirectionStart? t).isNone then unexpected true ""
          else simpleCommand fuel (← get).line [] [] []

/-- A compound command with the redirections after it. -/
def withRedirections (fuel : Nat) (c : Command) : Read Command :=
  match fuel with
  | 0 => return c
  | fuel + 1 => do
    match ← redirections fuel with
    | [] => return c
    | rs => return .redirected c rs

/-- What follows `if` or `elif`. -/
def conditional (fuel : Nat) : Read Command :=
  match fuel with
  | 0 => fail "Syntax error: too deep"
  | fuel + 1 => do
    let condition ← commandList fuel false
    expectKeyword "then"
    let consequence ← commandList fuel false
    skipBlanks
    let next := keyword? (← rest)
    if next = some "elif" then
      advanceBy 4
      return .conditional (.sequence condition) (.sequence consequence) (← conditional fuel)
    else if next = some "else" then
      advanceBy 4
      let alternative ← commandList fuel false
      expectKeyword "fi"
      return .conditional (.sequence condition) (.sequence consequence) (.sequence alternative)
    else
      expectKeyword "fi"
      return .conditional (.sequence condition) (.sequence consequence) (.sequence [])

/-- What follows `for`. -/
def iteration (fuel : Nat) : Read Command :=
  match fuel with
  | 0 => fail "Syntax error: too deep"
  | fuel + 1 => do
    match (← word? fuel).bind literal? with
    | none =>
      if (← rest).head? = some '\n' then advance
      fail "Syntax error: Bad for loop variable"
    | some name =>
      if !isName name then fail "Syntax error: Bad for loop variable"
      skipNewlines
      if keyword? (← rest) = some "in" then
        advanceBy 2
        let values ← words fuel
        skipBlanks
        match ← rest with
        | ';' :: _ | '\n' :: _ => advance
        | _ => unexpected false ""
        skipNewlines
        expectKeyword "do"
        let body ← commandList fuel false
        expectKeyword "done"
        return .iteration name (some values) (.sequence body)
      else
        match ← rest with
        | ';' :: _ => advance
        | _ => pure ()
        skipNewlines
        expectKeyword "do"
        let body ← commandList fuel false
        expectKeyword "done"
        return .iteration name none (.sequence body)

/-- What follows `case`. -/
def choice (fuel : Nat) : Read Command :=
  match fuel with
  | 0 => fail "Syntax error: too deep"
  | fuel + 1 => do
    match ← word? fuel with
    | none => unexpected false "word"
    | some subject =>
      skipNewlines
      expectKeyword "in"
      return .choice subject (← arms fuel)

/-- The arms of a choice. -/
def arms (fuel : Nat) : Read (List (List Word × Command)) :=
  match fuel with
  | 0 => fail "Syntax error: too deep"
  | fuel + 1 => do
    skipNewlines
    if keyword? (← rest) = some "esac" then
      advanceBy 4
      return []
    match ← rest with
    | '(' :: _ => advance
    | _ => pure ()
    let patterns ← patterns fuel
    expectClose
    let body ← commandList fuel true
    skipBlanks
    match ← rest with
    | ';' :: ';' :: _ =>
      advanceBy 2
      return (patterns, .sequence body) :: (← arms fuel)
    | _ =>
      if keyword? (← rest) ≠ some "esac" then unexpected true (inQuotes ";;")
      advanceBy 4
      return [(patterns, .sequence body)]

/-- The patterns of an arm. -/
def patterns (fuel : Nat) : Read (List Word) :=
  match fuel with
  | 0 => return []
  | fuel + 1 => do
    match ← word? fuel with
    | none => unexpected false (inQuotes ")")
    | some w =>
      skipBlanks
      match ← rest with
      | '|' :: _ =>
        advance
        return w :: (← patterns fuel)
      | _ => return [w]

/-- Commands with pipes between them. -/
def pipeline (fuel : Nat) : Read Command :=
  match fuel with
  | 0 => fail "Syntax error: too deep"
  | fuel + 1 => do
    skipBlanks
    let negated := keyword? (← rest) = some "!"
    if negated then advance
    let c : Command ← match ← stages fuel with
      | [c] => pure c
      | cs => pure (.pipeline cs)
    return if negated then .negation c else c

/-- The commands of a pipeline. -/
def stages (fuel : Nat) : Read (List Command) :=
  match fuel with
  | 0 => fail "Syntax error: too deep"
  | fuel + 1 => do
    let c ← command fuel
    skipBlanks
    match ← rest with
    | '|' :: '|' :: _ => return [c]
    | '|' :: _ =>
      advance
      skipNewlines
      return c :: (← stages fuel)
    | _ => return [c]

/-- Pipelines of which the later ones depend on the success of those before them. -/
def andOr (fuel : Nat) : Read Command :=
  match fuel with
  | 0 => fail "Syntax error: too deep"
  | fuel + 1 => do andOrAfter fuel (← pipeline fuel)

/-- What depends on a command. -/
def andOrAfter (fuel : Nat) (first : Command) : Read Command :=
  match fuel with
  | 0 => fail "Syntax error: too deep"
  | fuel + 1 => do
    skipBlanks
    match ← rest with
    | '&' :: '&' :: _ =>
      advanceBy 2
      skipNewlines
      let second ← pipeline fuel
      andOrAfter fuel (.both first second)
    | '|' :: '|' :: _ =>
      advanceBy 2
      skipNewlines
      let second ← pipeline fuel
      andOrAfter fuel (.either first second)
    | _ => return first

/-- Commands up to what ends them, which is left. There has to be one unless `mayBeEmpty`. -/
def commandList (fuel : Nat) (mayBeEmpty : Bool) : Read (List Command) :=
  match fuel with
  | 0 => fail "Syntax error: too deep"
  | fuel + 1 => do
    skipNewlines
    let t ← rest
    let ended := match t with
      | [] | ')' :: _ | ';' :: ';' :: _ => true
      | _ => closers.any fun k => keyword? t = some k
    if t = [] || (ended && mayBeEmpty) then return []
    let c ← andOr fuel
    skipBlanks
    match ← rest with
    | '&' :: _ =>
      advance
      return .background c :: (← commandList fuel true)
    | ';' :: ';' :: _ => return [c]
    | ';' :: _ | '\n' :: _ =>
      advance
      return c :: (← commandList fuel true)
    | _ => return [c]

end

/-- The commands up to the end of the line. -/
def lineCommands (fuel : Nat) : Read (List Command) :=
  match fuel with
  | 0 => fail "Syntax error: too deep"
  | fuel + 1 => do
    skipBlanks
    match ← rest with
    | [] => return []
    | '\n' :: _ =>
      advance
      return []
    | t =>
      let c ← andOr (16 * (t.length + 8))
      skipBlanks
      match ← rest with
      | [] => return [c]
      | '\n' :: _ =>
        advance
        return [c]
      | ';' :: ';' :: _ => unexpected true ""
      | ';' :: _ =>
        advance
        return c :: (← lineCommands fuel)
      | '&' :: _ =>
        advance
        return .background c :: (← lineCommands fuel)
      | _ => unexpected true ""

/-- The commands of the next line that has any, if there is one. -/
def nextLine (s : Source) : Except ReadFault (Option (List Command) × Source) :=
  match (do skipNewlines; rest : Read Text).run s with
  | .error e => .error e
  | .ok ([], s) => .ok (none, s)
  | .ok (t, s) => (lineCommands (t.length + 1)).run s |>.map fun (cs, s) => (some cs, s)

end HttpCascade.Shell
