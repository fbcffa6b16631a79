import BotBindings.Address.Number
import BotBindings.Address.Written

/-!
# Web addresses

An address names a host behind its scheme, and maybe a service by a number behind a colon. Only the
faults that show before any connection are told apart here: no host, a name or a number that no host
can have, and a service that is no number of sixteen bits.
-/

namespace BotBindings

/-- What is wrong with an address. -/
inductive AddressError
  | emptyHost
  | invalidName
  | invalidNumber
  | invalidLongNumber
  | invalidService
  /-- The host has a name, but with a quotation mark, which cannot be asked for. -/
  | quotedHost (written : String)
  deriving DecidableEq, Repr

/-- The text of a fault. -/
def AddressError.message : AddressError → String
  | .emptyHost => "builder error: empty host"
  | .invalidName => "builder error: invalid international domain name"
  | .invalidNumber => "builder error: invalid IPv4 address"
  | .invalidLongNumber => "builder error: invalid IPv6 address"
  | .invalidService => "builder error: invalid port number"
  | .quotedHost written =>
    "builder error for url (" ++ written ++ "): Parsed Url is not a valid Uri"

/-- The parts of an address, as they were written. -/
structure Address where
  /-- Whether the connection is secured. -/
  isSecure : Bool
  /-- The host. -/
  host : List Char
  /-- What follows the host up to a slash or the like: a service, or nothing. -/
  service : List Char
  /-- What is asked for. -/
  place : List Char
  deriving DecidableEq, Repr

namespace Address

/-! ## Parts -/

/-- What stands behind the scheme of a web address, and whether the scheme is the secure one. -/
def afterScheme? (text : String) : Option (Bool × List Char) :=
  match Text.stripFront "http://".toList text.toList with
  | some rest => some (false, rest)
  | none => (Text.stripFront "https://".toList text.toList).map fun rest => (true, rest)

/-- Whether a character ends the part that names the host. -/
def endsHost (c : Char) : Bool :=
  isSlash c || c == '?' || c == '#'

/-- Whether a character is dropped wherever it stands in an address. -/
def isDropped (c : Char) : Bool :=
  c == '\t' || c == '\n' || c == '\r'

/-- The text without blanks and controls at its end. -/
def trimmed (s : List Char) : List Char :=
  (s.reverse.dropWhile (·.toNat ≤ 0x20)).reverse

/-- The host and what follows it. No colon in square brackets ends a host. -/
def splitHost (inBrackets : Bool) : List Char → List Char × List Char
  | [] => ([], [])
  | c :: rest =>
    if c == ':' && !inBrackets then ([], c :: rest)
    else
      let (host, service) := splitHost (c == '[' || (inBrackets && c != ']')) rest
      (c :: host, service)

/-- The address that a text is. The name of a user belongs to no part of it. -/
def ofText? (text : String) : Option Address := do
  let (isSecure, rest) ← afterScheme? text
  let shown := ((trimmed rest).filter fun c => !isDropped c).dropWhile isSlash
  let authority := shown.takeWhile fun c => !endsHost c
  let (host, service) := splitHost false ((authority.reverse.takeWhile (· != '@')).reverse)
  pure { isSecure, host, service, place := shown.drop authority.length }

/-! ## Hosts -/

/-- The bytes of a text with escapes. What is no escape is left as it is. -/
def unescapedBytes : List UInt8 → List UInt8
  | [] => []
  | b :: rest =>
    let digit? (b : UInt8) : Option Nat := digitValue? (Char.ofNat b.toNat)
    if b.toNat = '%'.toNat then
      match rest with
      | first :: second :: after =>
        match digit? first, digit? second with
        | some n, some m => UInt8.ofNat (16 * n + m) :: unescapedBytes after
        | _, _ => b :: unescapedBytes (first :: second :: after)
      | rest => b :: rest
    else b :: unescapedBytes rest

/-- The text that a text with escapes stands for, if it is one. -/
def unescaped? (s : List Char) : Option (List Char) :=
  let bytes := unescapedBytes (String.ofList s).toUTF8.toList
  (String.fromUTF8? ⟨bytes.toArray⟩).map String.toList

/-- Checks a host that is given by its name or by a number of 32 bits, and gives the labels of its
name. -/
def nameLabels (host : List Char) : Except AddressError (List (List Char)) :=
  match (unescaped? host).bind labels? with
  | none => .error .invalidName
  | some labels =>
    if labels == [[]] then .error .emptyHost
    else if isNumeric labels && !isNumber labels then .error .invalidNumber
    else .ok labels

/-- Checks a number of 128 bits in brackets. -/
def checkBrackets (host : List Char) : Except AddressError Unit :=
  if host.getLast? == some ']' && isLongNumber (host.drop 1).dropLast then .ok ()
  else .error .invalidLongNumber

/-! ## Services -/

/-- The service that is not written because it is the usual one. -/
def usualService (isSecure : Bool) : Nat :=
  if isSecure then 443 else 80

/-- The number of a service behind a colon. No number at all stands for the usual service. -/
def serviceNumber? (service : List Char) : Except AddressError (Option Nat) :=
  let digits := service.drop 1
  if digits.isEmpty then .ok none
  else
    match value? 10 digits with
    | some n => if n < 65536 then .ok (some n) else .error .invalidService
    | none => .error .invalidService

/-! ## Whole addresses -/

/-- An address whose host has a name, as it is written. -/
def written (a : Address) (labels : List (List Char)) (service : Option Nat) : String :=
  let number := match service with
    | some n => if n = usualService a.isSecure then "" else ":" ++ toString n
    | none => ""
  (if a.isSecure then "https://" else "http://") ++ String.ofList (writtenName labels) ++ number
    ++ String.ofList (writtenPlace a.place)

/-- What is wrong with an address, if anything is. -/
def check (a : Address) : Except AddressError Unit :=
  match a.host with
  | [] => .error .emptyHost
  | '[' :: _ =>
    match checkBrackets a.host with
    | .error e => .error e
    | .ok () => (serviceNumber? a.service).map fun _ => ()
  | host =>
    match nameLabels host with
    | .error e => .error e
    | .ok labels =>
      match serviceNumber? a.service with
      | .error e => .error e
      | .ok service =>
        if labels.any (·.contains '"') then .error (.quotedHost (a.written labels service))
        else .ok ()

end Address

end BotBindings
