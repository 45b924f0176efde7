/-
Connecting a client.  An endpoint is a scheme and an authority; what is sent is encrypted exactly when the scheme
asks for it and a certificate is given to check the other side with.  A certificate that encryption cannot be set up
with is a failure under every scheme.
-/
import TaskTail.Client.Read
namespace TaskTail

/-- How an endpoint wants to be spoken to. -/
inductive Scheme
  | http
  | https
  | other (name : String)
  deriving DecidableEq, Repr

def maxSchemeLength : Nat := 64

def isSchemeChar (c : Char) : Bool :=
  c.isAlphanum || c = '+' || c = '-' || c = '.'

/-- The scheme of a name, in which the case of letters does not matter. -/
def Scheme.ofName (name : String) : Scheme :=
  let lower := name.map Char.toLower
  if lower = "http" then .http else if lower = "https" then .https else .other name

structure Endpoint where
  scheme : Scheme
  authority : String
  deriving DecidableEq, Repr

def isAuthorityChar (c : Char) : Bool :=
  c.isAlphanum || "-._~!$&'()*+,;=:@[]%".contains c

/-- The authority at the front of a text, up to its path, if it is well formed. -/
def authority? (text : List Char) : Option String :=
  let authority := text.takeWhile fun c => c != '/' && c != '?' && c != '#'
  if authority.isEmpty || !authority.all isAuthorityChar then none
  else if authority.count '[' = authority.count ']' then some (.ofList authority)
  else none

def Endpoint.parse? (text : String) : Option Endpoint :=
  let name := text.toList.takeWhile isSchemeChar
  let rest := text.toList.drop name.length
  if name.length ≤ maxSchemeLength && "://".toList.isPrefixOf rest then
    (authority? (rest.drop 3)).map fun authority => ⟨.ofName (.ofList name), authority⟩
  else none

/-- The host of an endpoint: what comes after a user and before a port. -/
def Endpoint.host (e : Endpoint) : String :=
  let address := (e.authority.toList.reverse.takeWhile (· != '@')).reverse
  if address.head? = some '[' then .ofList (address.takeWhile (· != ']') ++ [']'])
  else .ofList (address.takeWhile (· != ':'))

/-- How the messages of a connection travel. -/
inductive Security
  | plaintext
  /-- The other side has to show that `certificate` vouches for it under `name`. -/
  | encrypted (certificate : ByteArray) (name : String)

def Security.isPlaintext : Security → Bool
  | plaintext => true
  | encrypted .. => false

structure Channel where
  endpoint : Endpoint
  security : Security

/-- What a client is built on. -/
structure Network (α : Type) where
  /-- Whether encryption can be set up with a certificate and the name of the other side. -/
  encrypts : (certificate : ByteArray) → (name : String) → Bool
  /-- What is found at the end of a channel, if anything listens there. -/
  peer? : Channel → Option α

/-- A network in which nothing can be reached. -/
def Network.none {α : Type} : Network α :=
  ⟨fun _ _ => true, fun _ => Option.none⟩

/-- The reason given when no connection comes about. -/
def transportFailure : ClientError := .connection "transport error"

/-- The name that the other side has to have: that of the endpoint, unless another one is asked for. -/
def Endpoint.serverName (e : Endpoint) (domain : Option String) : String :=
  domain.getD e.host

/-- The channel to an endpoint.  A certificate is looked at first; then the scheme decides whether it is used. -/
def Endpoint.channel (encrypts : ByteArray → String → Bool) (e : Endpoint) (certificate : Option ByteArray)
    (domain : Option String) : Except ClientError Channel :=
  if certificate.any fun certificate => !encrypts certificate (e.serverName domain) then .error transportFailure
  else
    match e.scheme, certificate with
    | .https, some certificate => .ok ⟨e, .encrypted certificate (e.serverName domain)⟩
    | .https, none => .error transportFailure
    | .http, _ | .other _, _ => .ok ⟨e, .plaintext⟩

/-- What a client gets to talk to, given the certificate to check the other side with and the name it has to have. -/
def connect {α : Type} (network : Network α) (endpoint : String) (certificate : Option ByteArray)
    (domain : Option String) : Except ClientError α :=
  match Endpoint.parse? endpoint with
  | none => .error (.connection "invalid uri")
  | some endpoint =>
    match endpoint.channel network.encrypts certificate domain with
    | .error error => .error error
    | .ok channel =>
      match network.peer? channel with
      | some peer => .ok peer
      | none => .error transportFailure

end TaskTail
