import HttpCascade.Path
import HttpCascade.RequestText
import HttpCascade.Script
import HttpCascade.Template

/-!
# Failures of a resolution

Every failure names the file or the directory that was worked on.
-/

namespace HttpCascade

/-- The part of a file in which placeholders are filled. -/
inductive ExpansionField where
  | headers
  | url
  | header (name : Text)
  | body
  deriving DecidableEq, Repr

def ExpansionField.name : ExpansionField → String
  | headers => "headers"
  | url => "url"
  | header name => s!"header '{name.str}'"
  | body => "body"

/-- Why a request file has no complete request. -/
inductive ResolveError where
  /-- The target is not a file below the root. -/
  | notUnderRoot (root target : Path)
  /-- A directory could not be listed or a file could not be read. -/
  | filesystem (path : Path) (cause : IoError)
  /-- The script of a directory failed. -/
  | script (directory script : Path) (cause : ScriptError)
  /-- A placeholder has no value. -/
  | expansion (path : Path) (field : ExpansionField) (cause : ExpansionError)
  /-- A headers file or the request file has a fault. -/
  | parse (path : Path) (cause : ParseError)
  /-- The filled URL is not one. -/
  | invalidUrl (path : Path) (url : Text) (cause : UrlError)
  deriving DecidableEq, Repr

namespace ResolveError

/-- The file or the directory that was worked on. -/
def path : ResolveError → Path
  | notUnderRoot _ target => target
  | filesystem path _ | expansion path _ _ | parse path _ | invalidUrl path _ _ => path
  | script _ file _ => file

def message : ResolveError → String
  | notUnderRoot root target => s!"{target.str} must be under {root.str}"
  | filesystem path cause => s!"unable to read {path.str}: {cause.message}"
  | script _ file cause => s!"failed to execute before script {file.str}: {cause.message}"
  | expansion path field cause => s!"unable to expand {field.name} in {path.str}: {cause.message}"
  | parse path cause => s!"failed to parse {path.str}: {cause.message}"
  | invalidUrl path url cause => s!"invalid URL '{url.str}' in {path.str}: {cause.message}"

/-- The messages of the failures below this one, the nearest first. -/
def causes : ResolveError → List String
  | notUnderRoot _ _ => []
  | filesystem _ cause => [cause.message]
  | script _ _ cause => cause.message :: (cause.cause?.map IoError.message).toList
  | expansion _ _ cause => [cause.message]
  | parse _ cause => [cause.message]
  | invalidUrl _ _ cause => [cause.message]

end ResolveError

end HttpCascade
