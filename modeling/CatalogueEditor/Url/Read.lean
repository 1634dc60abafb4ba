import CatalogueEditor.Url.Basic
import CatalogueEditor.Text.Blank
import CatalogueEditor.Url.Path

/-!
Reading URLs. Control characters and spaces at the ends of text, and tabs and line breaks anywhere,
count for nothing. `Url.read` takes a complete URL; `Url.resolve` also takes text that leaves out
what it shares with another URL.
-/

namespace CatalogueEditor.Url

/-- The text without what counts for nothing. -/
def clean (text : List Char) : List Char :=
  (Text.dropTrailing (· ≤ ' ') (text.dropWhile (· ≤ ' '))).filter
    fun c => c != '\t' && c != '\n' && c != '\r'

def isSchemeChar (c : Char) : Bool :=
  c.isAlphanum || c == '+' || c == '-' || c == '.'

/-- The scheme in small letters, and the text behind its colon. -/
def splitScheme (text : List Char) : Option (List Char × List Char) :=
  match text.head?, text.dropWhile isSchemeChar with
  | some c, ':' :: rest =>
      if c.isAlpha then some ((text.takeWhile isSchemeChar).map Char.toLower, rest) else none
  | _, _ => none

def endsAuthority (kind : SchemeKind) (c : Char) : Bool :=
  UrlPath.isSlash kind c || UrlPath.endsPath c

def keepsInUser (c : Char) : Bool :=
  UrlPath.keeps c && !("/:;=@[\\]^|".toList.contains c)

/-- User and password, what stands before the last at sign of an authority, and the text behind it.
An empty user needs a host. -/
def splitUser (kind : SchemeKind) (text : List Char) :
    Except UrlProblem ((List Char × List Char) × List Char) :=
  let authority := text.takeWhile (!endsAuthority kind ·)
  -- At signs before the last one belong to the user or the password.
  if '@' ∈ authority then
    let behind := (authority.reverse.takeWhile (· != '@')).reverse
    let user := authority.take (authority.length - behind.length - 1)
    let rest := text.drop (user.length + 1)
    if user = [] ∧ rest.head?.any (endsAuthority kind) then .error .emptyHost
    else
      let (name, password) := Form.cut ':' user
      .ok ((Percent.encode keepsInUser name, Percent.encode keepsInUser password), rest)
  else .ok (([], []), text)

/-- The text of a host, up to a colon outside brackets or the end of the authority, and what is
left. -/
def splitHost (kind : SchemeKind) (inside : Bool) : List Char → List Char × List Char
  | [] => ([], [])
  | c :: rest =>
      if endsAuthority kind c || c == ':' && !inside then ([], c :: rest)
      else
        let (host, left) := splitHost kind (c == '[' || inside && c != ']') rest
        (c :: host, left)

/-- The port, unless it is that of the scheme, and the text behind it. -/
def splitPort (scheme text : List Char) : Except UrlProblem (Option Nat × List Char) :=
  let digits := text.takeWhile Char.isDigit
  let rest := text.dropWhile Char.isDigit
  match Text.digitsValue 10 0 digits with
  | none => .error .badPort
  | some port =>
      if 65535 < port ∨ rest.head?.any (!endsAuthority .web ·) then .error .badPort
      else
        let usual := webPorts.lookup scheme
        .ok (if digits = [] ∨ usual = some port then none else some port, rest)

/-- The host that must stand on the web and may stand elsewhere. -/
def readHost (kind : SchemeKind) (text : List Char) : Except UrlProblem (Option Host) :=
  match kind with
  | .other => Host.readOther text
  | _ => if text = [] then .error .emptyHost else (Host.read text).map some

/-- The authority that text starts with, and the text behind it. -/
def splitAuthority (scheme text : List Char) : Except UrlProblem (Authority × List Char) := do
  let kind := SchemeKind.ofScheme scheme
  let ((user, password), text) ← splitUser kind text
  let (hostText, text) := splitHost kind false text
  let host ← readHost kind hostText
  match text with
  | ':' :: text =>
      if host = none then .error .emptyHost
      else
        let (port, rest) ← splitPort scheme text
        return (⟨user, password, host, port⟩, rest)
  | _ =>
      if host = none ∧ (user ≠ [] ∨ password ≠ []) then .error .emptyHost
      else return (⟨user, password, host, none⟩, text)

def keepsInQuery (kind : SchemeKind) (c : Char) : Bool :=
  Percent.isGraphic c && !("\"#<>".toList.contains c) && !(c == '\'' && kind != .other)

def keepsInFragment (c : Char) : Bool :=
  Percent.isGraphic c && !("\"<>`".toList.contains c)

/-- The URL with the query and the fragment that text holds, a question mark or a number sign first;
without a question mark the query stays. -/
def withEnding (url : Url) (text : List Char) : Url :=
  let kind := SchemeKind.ofScheme url.scheme
  let fragment (text : List Char) : Option (List Char) :=
    match text.dropWhile (· != '#') with
    | [] => none
    | _ :: rest => some (Percent.encode keepsInFragment rest)
  match text with
  | '?' :: rest =>
      { url with
        query := some (Percent.encode (keepsInQuery kind) (rest.takeWhile (· != '#')))
        fragment := fragment rest }
  | _ => { url with fragment := fragment text }

/-- The URL with the path that text adds to segments, and with its query and fragment. -/
def withPath (url : Url) (before : List (List Char)) (text : List Char) : Url :=
  let path := text.takeWhile (!UrlPath.endsPath ·)
  let ending := text.dropWhile (!UrlPath.endsPath ·)
  let segments := UrlPath.read (SchemeKind.ofScheme url.scheme) before path
  { url with path := .segments segments, query := none }.withEnding ending

/-- The URL with the path that stands behind an authority. A path on the web is never empty. -/
def withRootedPath (url : Url) (text : List Char) : Url :=
  match SchemeKind.ofScheme url.scheme, text with
  | _, '/' :: rest => url.withPath [] rest
  | .other, [] => { url with path := .segments [], query := none }.withEnding []
  | .other, c :: rest =>
      if UrlPath.endsPath c then
        { url with path := .segments [], query := none }.withEnding (c :: rest)
      else url.withPath [] (c :: rest)
  | _, '\\' :: rest => url.withPath [] rest
  | _, text => url.withPath [] text

def ofScheme (scheme : List Char) : Url :=
  ⟨scheme, none, .plain [], none, none⟩

def readAuthority (scheme text : List Char) : Except UrlProblem Url := do
  let (authority, rest) ← splitAuthority scheme text
  return { ofScheme scheme with authority := some authority }.withRootedPath rest

/-- A file at a path; a path that starts with a drive needs no host. -/
def ofFile (host : Option Host) (text : List Char) : Url :=
  let authority (host : Option Host) : Authority := ⟨[], [], host, none⟩
  let url := { ofScheme "file".toList with authority := some (authority host) }.withPath [] text
  match url.path with
  | .plain _ => url
  | .segments segments =>
      let host := if UrlPath.startsWithDrive segments then none else host
      { url with
        authority := some (authority host)
        path := .segments (UrlPath.dropEmpty segments) }

/-- The host of a file; this computer may be left out. -/
def readFileHost (text : List Char) : Except UrlProblem (Option Host) :=
  if text = [] then .ok none
  else
    match Host.read text with
    | .error problem => .error problem
    | .ok host => .ok (if host = .name "localhost".toList then none else some host)

def isFileSlash (c : Char) : Bool :=
  UrlPath.isSlash .file c

def readFile (text : List Char) : Except UrlProblem Url := do
  match text with
  | c :: d :: rest =>
      if isFileSlash c && isFileSlash d then
        let hostText := rest.takeWhile (!endsAuthority .file ·)
        if UrlPath.isDrive hostText then return ofFile none rest
        else
          let host ← readFileHost hostText
          let path := rest.drop hostText.length
          -- Without a host the slash before the path makes an empty segment of its own.
          let rooted := host.isSome && path.head?.any isFileSlash
          return ofFile host (if rooted then path.drop 1 else path)
      else return ofFile none (if isFileSlash c then d :: rest else text)
  | [c] => return ofFile none (if isFileSlash c then [] else text)
  | [] => return ofFile none []

/-- Reads a plain path, which is kept as it is, controls apart. -/
def readPlain (scheme text : List Char) : Url :=
  let path := text.takeWhile (!UrlPath.endsPath ·)
  let kept := Percent.encode (fun c => c == ' ' || Percent.isGraphic c) path
  { ofScheme scheme with path := .plain kept }.withEnding (text.dropWhile (!UrlPath.endsPath ·))

def readBehind (scheme text : List Char) : Except UrlProblem Url :=
  match SchemeKind.ofScheme scheme, text with
  | .file, _ => readFile text
  | .web, _ => readAuthority scheme (text.dropWhile (UrlPath.isSlash .web))
  | .other, '/' :: '/' :: rest => readAuthority scheme rest
  | .other, '/' :: rest => .ok ((ofScheme scheme).withPath [] rest)
  | .other, _ => .ok (readPlain scheme text)

def read (text : List Char) : Except UrlProblem Url :=
  match splitScheme (clean text) with
  | none => .error .relative
  | some (scheme, rest) => readBehind scheme rest

def ofText (text : String) : Except UrlProblem Url :=
  read text.toList

/-- Resolves text without a scheme against a URL whose path has these segments. -/
def resolveBehind (base : Url) (segments : List (List Char)) (text : List Char) :
    Except UrlProblem Url :=
  let kind := SchemeKind.ofScheme base.scheme
  match text with
  | [] => .ok { base with fragment := none }
  | '?' :: _ => .ok (base.withEnding text)
  | '#' :: _ => .ok (base.withEnding text)
  | '/' :: '/' :: rest => readAuthority base.scheme rest
  | c :: rest =>
      if UrlPath.isSlash kind c then
        if rest.head?.any (UrlPath.isSlash kind) then
          readAuthority base.scheme (text.dropWhile (UrlPath.isSlash kind))
        else .ok (base.withPath [] rest)
      else .ok (base.withPath segments.dropLast text)

/-- The URL that text names in a document at a base. -/
def resolve (base : Url) (text : List Char) : Except UrlProblem Url :=
  let text := clean text
  let relative (text : List Char) : Except UrlProblem Url :=
    match base.path with
    | .segments segments => resolveBehind base segments text
    | .plain _ => if text.head? = some '#' then .ok (base.withEnding text)
        else .error .relativeToPlainPath
  match splitScheme text with
  | none => relative text
  | some (scheme, rest) =>
      -- The scheme of the base may be repeated before text that leaves out the host.
      let slashes := rest.takeWhile (UrlPath.isSlash .web)
      if SchemeKind.ofScheme scheme = .web ∧ scheme = base.scheme ∧ slashes.length < 2 then
        relative rest
      else readBehind scheme rest

end CatalogueEditor.Url
