import HttpCascade.Request

/-!
# cURL commands

A request as a shell command. Every argument is a shell word: it stands as it is if no character of
it means anything to a shell, and between single quotes otherwise.
-/

namespace HttpCascade.Curl

/-- The characters that an unquoted word may not hold. -/
def specialChars : List Char :=
  [' ', '\t', '\n', '\r', '|', '&', ';', '<', '>', '(', ')', '$', '\x60', '\\', '"', '\'', '*', '?',
    '[', ']', '#', '~', '=', '%', '{', '}']

def needsQuotes (argument : Text) : Bool :=
  argument = [] || argument.any fun c => c ∈ specialChars

/-- A character between single quotes; a single quote is put outside them. -/
def quoteChar (c : Char) : Text := if c = '\'' then ['\'', '\\', '\'', '\''] else [c]

/-- An argument as a shell word. -/
def word (argument : Text) : Text :=
  if needsQuotes argument then '\'' :: argument.flatMap quoteChar ++ ['\''] else argument

/-- An option and its argument. -/
def option (name : Char) (argument : Text) : Text := ['-', name, ' '] ++ word argument

/-- The parts of the command: the method unless it is the default, the headers in name order, the
body if there is one, and the URL. -/
def parts (r : Request) : List Text :=
  ["curl".toList] ++
    (if r.verb? = some .get then [] else [option 'X' r.method]) ++
    r.headers.entries.map (fun entry => option 'H' (entry.1 ++ [':', ' '] ++ entry.2)) ++
    (if r.hasBody then [option 'd' r.body] else []) ++
    [word r.url]

/-- The command with its parts on one line. -/
def compact (r : Request) : Text := Text.join [' '] (parts r)

/-- A space, and an escaped line break, between the parts. -/
def continuation : Text := [' ', '\\', '\n', ' ', ' ']

/-- The command on one line if it takes no more than eighty bytes, and a part a line otherwise. -/
def command (r : Request) : Text :=
  if (compact r).byteLength ≤ 80 then compact r else Text.join continuation (parts r)

end HttpCascade.Curl
