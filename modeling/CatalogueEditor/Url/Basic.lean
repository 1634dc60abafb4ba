import CatalogueEditor.Url.Form
import CatalogueEditor.Url.Host

/-!
URLs, taken apart, and their text. All parts but the host are kept as they are written, with what
must be encoded encoded.
-/

namespace CatalogueEditor

/-- Where a URL points to, with whom it names as user; an empty password is none. -/
structure Authority where
  user : List Char
  password : List Char
  host : Option Host
  port : Option Nat
deriving DecidableEq

/-- A path has segments, unless it is plain text that no other path can be resolved against. -/
inductive UrlPath
  | plain (text : List Char)
  | segments (segments : List (List Char))
deriving DecidableEq

structure Url where
  scheme : List Char
  authority : Option Authority
  path : UrlPath
  query : Option (List Char)
  fragment : Option (List Char)
deriving DecidableEq

/-- Each segment behind a slash. -/
def renderSegments (segments : List (List Char)) : List Char :=
  segments.flatMap ('/' :: ·)

namespace Authority

def renderUser (authority : Authority) : List Char :=
  if authority.user = [] ∧ authority.password = [] then []
  else
    authority.user ++ (if authority.password = [] then [] else ':' :: authority.password) ++ ['@']

def renderPort (authority : Authority) : List Char :=
  match authority.port with
  | none => []
  | some port => ':' :: Nat.toDigits 10 port

def render (authority : Authority) : List Char :=
  '/' :: '/' :: (authority.renderUser ++ (authority.host.map Host.render).getD [] ++
    authority.renderPort)

end Authority

namespace Url

def renderPath (url : Url) : List Char :=
  match url.path with
  | .plain text => text
  | .segments segments => renderSegments segments

def renderQuery (url : Url) : List Char :=
  match url.query with
  | none => []
  | some query => '?' :: query

def renderFragment (url : Url) : List Char :=
  match url.fragment with
  | none => []
  | some fragment => '#' :: fragment

/-- Sets a path that starts with an empty segment apart from an authority. -/
def pathGuard (url : Url) : List Char :=
  match url.authority, url.path with
  | none, .segments ([] :: _ :: _) => ['/', '.']
  | _, _ => []

def renderAuthority (url : Url) : List Char :=
  (url.authority.map Authority.render).getD []

def render (url : Url) : List Char :=
  url.scheme ++ ':' :: (url.renderAuthority ++ url.pathGuard ++ url.renderPath ++
    url.renderQuery ++ url.renderFragment)

def text (url : Url) : String :=
  String.ofList url.render

def host (url : Url) : Option Host :=
  url.authority.bind Authority.host

def fields (url : Url) : List Form.Field :=
  Form.read (url.query.getD [])

def addField (url : Url) (field : Form.Field) : Url :=
  { url with query := some (Form.append (url.query.getD []) field) }

end Url

end CatalogueEditor
