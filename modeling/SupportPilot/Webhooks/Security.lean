import Mathlib.Data.BitVec

/-!
# Destinations

Which addresses `ipaddress` and the application take for safe, and what a resolution of a host name
must give to be approved. The registries of special-purpose networks are a parameter, as they grow
with the versions of Python.
-/

namespace SupportPilot.Webhooks

inductive IPAddress
  | v4 (a : BitVec 32)
  | v6 (a : BitVec 128)
  deriving DecidableEq, Repr

structure IPNetwork (w : Nat) where
  base : BitVec w
  prefixLength : Nat
  deriving DecidableEq, Repr

def IPNetwork.contains {w : Nat} (net : IPNetwork w) (a : BitVec w) : Bool :=
  a >>> (w - net.prefixLength) = net.base >>> (w - net.prefixLength)

/-- The networks by which `ipaddress` decides whether an address is private or global. -/
structure AddressTables where
  shared4 : List (IPNetwork 32)
  private4 : List (IPNetwork 32)
  exceptions4 : List (IPNetwork 32)
  private6 : List (IPNetwork 128)
  exceptions6 : List (IPNetwork 128)

def multicast4 : IPNetwork 32 := ⟨0xe0000000#32, 4⟩
def multicast6 : IPNetwork 128 := ⟨0xff000000000000000000000000000000#128, 8⟩
def mappedNetwork : IPNetwork 128 := ⟨0x00000000000000000000ffff00000000#128, 96⟩

/-- `_DEPRECATED_SITE_LOCAL_IPV6` -/
def deprecatedSiteLocal6 : IPNetwork 128 := ⟨0xfec00000000000000000000000000000#128, 10⟩

/-- `ipv4_mapped` -/
def ipv4Mapped (a : BitVec 128) : Option (BitVec 32) :=
  if mappedNetwork.contains a then some (a.setWidth 32) else none

section Classification

variable (t : AddressTables)

def isPrivate4 (a : BitVec 32) : Bool :=
  t.private4.any (·.contains a) && t.exceptions4.all (!·.contains a)

def isGlobal4 (a : BitVec 32) : Bool :=
  t.shared4.all (!·.contains a) && !isPrivate4 t a

def isPrivate6 (a : BitVec 128) : Bool :=
  match ipv4Mapped a with
  | some b => isPrivate4 t b
  | none => t.private6.any (·.contains a) && t.exceptions6.all (!·.contains a)

def isGlobal6 (a : BitVec 128) : Bool := !isPrivate6 t a

def isBlocked4 (a : BitVec 32) : Bool := multicast4.contains a || !isGlobal4 t a

/-- `is_blocked_address` -/
def isBlockedAddress : IPAddress → Bool
  | .v4 a => isBlocked4 t a
  | .v6 a =>
    match ipv4Mapped a with
    | some b => isBlocked4 t b
    | none => multicast6.contains a || deprecatedSiteLocal6.contains a || !isGlobal6 t a

end Classification

/-! ## Resolutions -/

/-- One entry of `getaddrinfo`: whether it is of the family `AF_INET6`, and the text of its
address. -/
structure AddrInfo where
  inet6 : Bool
  host : String
  deriving DecidableEq, Repr

/-- What a resolver answers; the last are the errors that are not `gaierror`. -/
inductive Answer
  | results (entries : List AddrInfo)
  | gaierror
  | failure
  deriving DecidableEq, Repr

/-- What happens on the network. -/
inductive NetworkEvent
  | resolved (hostname : String) (port : Nat) (answer : Answer)
  | opened (ip : String) (port : Nat)
  deriving DecidableEq, Repr

structure SplitUrl where
  scheme : String
  fragment : String := ""
  username : String := ""
  password : String := ""
  hostname : Option String
  port : Option Nat := none
  validHostAndPort : Bool := true
  path : String := ""
  query : String := ""
  deriving DecidableEq, Repr

/-- What the standard library makes of texts and addresses. -/
structure Stdlib where
  tables : AddressTables
  ipAddress : String → Option IPAddress
  str : IPAddress → String
  strip : String → String
  lower : String → String
  urlsplit : String → Option SplitUrl

/-- The text of an address stands for this address: it is read back, and to connect to it needs no
resolution. -/
def Stdlib.Literal (lib : Stdlib) : Prop := ∀ a, lib.ipAddress (lib.str a) = some a

inductive DestinationError
  | unconfigured
  | blocked
  | resolution
  | failure
  deriving DecidableEq, Repr

variable (lib : Stdlib)

/-- The address of an entry, without its zone. -/
def AddrInfo.address (entry : AddrInfo) : Option IPAddress :=
  lib.ipAddress <|
    if entry.inet6 then String.ofList (entry.host.toList.takeWhile (· ≠ '%')) else entry.host

def readAddresses : List AddrInfo → Option (List IPAddress)
  | [] => some []
  | entry :: rest =>
    match entry.address lib, readAddresses rest with
    | some a, some as => some (a :: as)
    | _, _ => none

/-- The part that `resolve_and_validate` and `validate_outbound_host` share: every address has to
be safe, and the first is approved. -/
def approve (answer : Answer) : Except DestinationError String :=
  match answer with
  | .gaierror => .error .resolution
  | .failure => .error .failure
  | .results entries =>
    match readAddresses lib entries with
    | none => .error .resolution
    | some [] => .error .resolution
    | some (first :: rest) =>
      if (first :: rest).any (isBlockedAddress lib.tables) then .error .blocked
      else .ok (lib.str first)

def isLocalhost (hostname : String) : Bool := hostname = "localhost" || hostname = "localhost."

/-- `resolve_and_validate`, with the resolution that it makes. -/
def resolveAndValidate (hostname : String) (port : Nat) (answer : Answer) :
    List NetworkEvent × Except DestinationError String :=
  let normalized := lib.lower (lib.strip hostname)
  if isLocalhost normalized then ([], .error .blocked)
  else ([.resolved normalized port answer], approve lib answer)

/-- `validate_outbound_host` -/
def validateOutboundHost (hostname : Option String) (port : Nat) (answer : Answer) :
    List NetworkEvent × Except DestinationError String :=
  match hostname with
  | none => ([], .error .unconfigured)
  | some hostname =>
    if lib.strip hostname = "" then ([], .error .unconfigured)
    else
      let normalized := lib.lower (lib.strip hostname)
      if isLocalhost normalized then ([], .error .blocked)
      else ([.resolved normalized port answer], approve lib answer)

structure ParsedWebhookUrl where
  scheme : String
  hostname : String
  port : Nat
  pathAndQuery : String
  deriving DecidableEq, Repr

structure WebhookSettings where
  allowInsecureHttp : Bool := false
  maxUrlLength : Nat := 2048

def WebhookSettings.allowedSchemes (settings : WebhookSettings) : List String :=
  if settings.allowInsecureHttp then ["http", "https"] else ["https"]

/-- `parse_webhook_url` -/
def parseWebhookUrl (settings : WebhookSettings) (url : String) : Option ParsedWebhookUrl :=
  if url = "" ∨ settings.maxUrlLength < url.length then none
  else match lib.urlsplit url with
  | none => none
  | some parts =>
    if parts.scheme ∉ settings.allowedSchemes then none
    else if parts.fragment ≠ "" then none
    else if parts.username ≠ "" ∨ parts.password ≠ "" then none
    else if parts.validHostAndPort = false then none
    else match parts.hostname with
    | none => none
    | some hostname =>
      if hostname = "" then none
      else
        let port := parts.port.getD (if parts.scheme = "https" then 443 else 80)
        if 0 < port ∧ port ≤ 65535 then
          let path := if parts.path = "" then "/" else parts.path
          some {
            scheme := parts.scheme
            hostname := lib.lower hostname
            port
            pathAndQuery := if parts.query = "" then path else path ++ "?" ++ parts.query }
        else none

end SupportPilot.Webhooks
