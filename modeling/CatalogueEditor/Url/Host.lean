import CatalogueEditor.Url.Address
import CatalogueEditor.Url.Domain
import CatalogueEditor.Url.Percent

/-!
Hosts of URLs. What is written for a host reads as the same host, and text for which that would
fail is no host.
-/

namespace CatalogueEditor

inductive UrlProblem
  | relative
  | relativeToPlainPath
  | emptyHost
  | badPort
  | badAddress4
  | badAddress6
  | badDomain
  | badHostCharacter
deriving DecidableEq

def UrlProblem.message : UrlProblem → String
  | relative => "relative URL without a base"
  | relativeToPlainPath => "relative URL with a cannot-be-a-base base"
  | emptyHost => "empty host"
  | badPort => "invalid port number"
  | badAddress4 => "invalid IPv4 address"
  | badAddress6 => "invalid IPv6 address"
  | badDomain => "invalid international domain name"
  | badHostCharacter => "invalid domain character"

/-- A host is known by a name or by an address; names are kept as they are looked up. -/
inductive Host
  | name (text : List Char)
  | address4 (address : Nat)
  | address6 (pieces : List Nat)
deriving DecidableEq

namespace Host

open Text

def render : Host → List Char
  | name text => text
  | address4 address => Address.write4 address
  | address6 pieces => '[' :: Address.write6 pieces ++ [']']

/-- Reads what stands behind an opening bracket. -/
def readBracketed (text : List Char) : Except UrlProblem Host :=
  match text.getLast?, Address.read6? text.dropLast with
  | some ']', some pieces => .ok (address6 pieces)
  | _, _ => .error .badAddress6

/-- Reads a domain, or an address written like one. -/
def readDomain (text : List Char) : Except UrlProblem Host :=
  match Domain.ofText? (ofUtf8 (Percent.decode text)) with
  | none => .error .badDomain
  | some [] => .error .emptyHost
  | some domain =>
      if Address.endsInNumber domain then
        match Address.read4? domain with
        | some address => .ok (address4 address)
        | none => .error .badAddress4
      else .ok (name domain)

def readOnce : List Char → Except UrlProblem Host
  | '[' :: rest => readBracketed rest
  | text => readDomain text

/-- Whether what is written for a host reads as that host. -/
def isSettled (host : Host) : Bool :=
  match readOnce host.render with
  | .ok again => again == host
  | .error _ => false

def read (text : List Char) : Except UrlProblem Host :=
  match readOnce text with
  | .error problem => .error problem
  | .ok host => if host.isSettled then .ok host else .error .badDomain

theorem readOnce_of_isSettled {host : Host} (settled : host.isSettled) :
    readOnce host.render = .ok host := by
  unfold isSettled at settled
  split at settled
  · next again found => rw [found, eq_of_beq settled]
  · cases settled

theorem isSettled_of_read {text : List Char} {host : Host} (found : read text = .ok host) :
    host.isSettled := by
  unfold read at found
  split at found
  · cases found
  · split at found
    · next settled => cases found; exact settled
    · cases found

/-- A host is read back from what is written for it. -/
theorem read_render {text : List Char} {host : Host} (found : read text = .ok host) :
    read host.render = .ok host := by
  have settled := isSettled_of_read found
  simp [read, readOnce_of_isSettled settled, settled]

/-- Characters that end or divide the part of a URL that holds the host. -/
def isDivider (c : Char) : Bool :=
  "\x00\t\n\r #/:<>?@[\\]^|".toList.contains c

/-- The host that text names where hosts need not be domains; empty text names none. -/
def readOther : List Char → Except UrlProblem (Option Host)
  | [] => .ok none
  | '[' :: rest => (readBracketed rest).map some
  | text =>
      if text.any isDivider then .error .badHostCharacter
      else .ok (some (name (Percent.encode (fun c => c == ' ' || Percent.isGraphic c) text)))

end Host

end CatalogueEditor
