import FamilyDesign.Http.NumberedHost
import FamilyDesign.Text.Blank
import FamilyDesign.Text.Escape

/-!
# Addresses

An address is opened without the blanks around it and without the mark `URL:` that may stand ahead
of it. It has to name a kind of address, a scheme, and its host has to be one: the square brackets
in it stand around a long number, and no character of it looks like a mark of addresses. An
address that breaks a rule is refused before anything is sent.
-/

namespace FamilyDesign.Http

/-- Why an address cannot be opened. -/
inductive AddressFault
  | unknownKind (address : Text)
  | misplacedBracket
  | badLaterNumber
  | shortNumberInBrackets
  | noNumberInBrackets (inside : Text)
  | confusing (host : Text)

/-- The wording of an address fault. -/
def AddressFault.message : AddressFault → Text
  | unknownKind address => "unknown url type: " ++ Text.shown address
  | misplacedBracket => "Invalid IPv6 URL"
  | badLaterNumber => "IPvFuture address is invalid"
  | shortNumberInBrackets => "An IPv4 address cannot be in brackets"
  | noNumberInBrackets inside =>
    Text.shown inside ++ " does not appear to be an IPv4 or IPv6 address"
  | confusing host =>
    "netloc '" ++ host ++ "' contains invalid characters under NFKC normalization"

namespace Address

/-- The mark that may stand ahead of an address. -/
def mark : List CodePoint := ("URL:" : Text).toList

/-- An address without the blanks around it, and without its mark. -/
def bare (address : List CodePoint) : List CodePoint :=
  let address := Text.stripWhile Text.isBlank address
  if mark.isPrefixOf address then Text.stripWhile Text.isBlank (address.drop mark.length)
  else address

/-- The part of an address ahead of the last `#`; all of it if there is none. -/
def withoutFragment (address : List CodePoint) : List CodePoint :=
  if address.contains '#' then
    (Text.dropRightWhile (fun c : CodePoint => c != '#') address).dropLast
  else address

/-- Whether an address starts with the name of its kind: characters other than slashes and colons,
and a colon. -/
def namesKind (address : List CodePoint) : Bool :=
  let name := address.takeWhile fun c : CodePoint => c != ':' && c != '/'
  !name.isEmpty && (address.drop name.length).head? == some (.char ':')

/-- A character of the name of a registered kind. -/
def isKindChar (c : CodePoint) : Bool := c.isAlphanum || c == '+' || c == '-' || c == '.'

/-- What follows the name of a kind that could be registered; all of the address if it has none. -/
def afterKind (address : List CodePoint) : List CodePoint :=
  let name := address.takeWhile isKindChar
  match address.drop name.length with
  | ':' :: rest => if name.head?.any CodePoint.isAlpha then rest else address
  | _ => address

/-- An address without the spaces and controls at its front, and without tabs and line ends. -/
def withoutControls (address : List CodePoint) : List CodePoint :=
  (address.dropWhile (·.toNat ≤ 0x20)).filter fun c : CodePoint =>
    c != '\t' && c != '\n' && c != '\r'

/-- The host of an address and what belongs to it, from two slashes up to the next mark. -/
def host (address : List CodePoint) : List CodePoint :=
  match afterKind (withoutControls address) with
  | '/' :: '/' :: rest => rest.takeWhile fun c : CodePoint => c != '/' && c != '?' && c != '#'
  | _ => []

/-- A host without the name of a user ahead of the last `@`. -/
def withoutUser (host : List CodePoint) : List CodePoint :=
  (host.reverse.takeWhile fun c : CodePoint => c != '@').reverse

/-- Refuses what may not stand in square brackets. -/
def checkInside (inside : List CodePoint) : Except AddressFault Unit :=
  if inside.head? == some (.char 'v') then
    if isLaterNumber inside then .ok () else .error .badLaterNumber
  else if isShortNumber inside then .error .shortNumberInBrackets
  else if isLongNumber inside then .ok ()
  else .error (.noNumberInBrackets (Text.ofList inside))

/-- Refuses what follows an opening bracket at the front of a host, unless it is a number, the
closing bracket, and at most a port behind a colon. -/
def checkBracketed (rest : List CodePoint) : Except AddressFault Unit :=
  let inside := rest.takeWhile fun c : CodePoint => c != ']'
  match rest.drop (inside.length + 1) with
  | [] | ':' :: _ => checkInside inside
  | _ => .error .misplacedBracket

/-- Refuses a host with square brackets that do not stand around its number. Where only the name of
a user has them, the host ahead of its port has to be a number nevertheless. -/
def checkBrackets (host : List CodePoint) : Except AddressFault Unit :=
  if host.contains '[' != host.contains ']' then .error .misplacedBracket
  else if host.contains '[' then
    match withoutUser host with
    | '[' :: rest => checkBracketed rest
    | plain =>
      if plain.contains '[' then .error .misplacedBracket
      else checkInside (plain.takeWhile fun c : CodePoint => c != ':')
  else .ok ()

/-- The characters that are forms of a slash, a colon, or another mark of addresses, or have one in
them. -/
def confusingChars : List Nat := [
  0x2047, 0x2048, 0x2049, 0x2100, 0x2101, 0x2105, 0x2106, 0x2A74, 0xFE13, 0xFE16, 0xFE55, 0xFE56,
  0xFE5F, 0xFE6B, 0xFF03, 0xFF0F, 0xFF1A, 0xFF1F, 0xFF20]

/-- Refuses a host that has a mark of addresses in another form. -/
def checkMarks (host : List CodePoint) : Except AddressFault Unit :=
  if host.any fun c => confusingChars.contains c.toNat then .error (.confusing (Text.ofList host))
  else .ok ()

/-- The address as it is opened. -/
def opened (address : Text) : Except AddressFault Text := do
  let address := bare address.toList
  if !namesKind (withoutFragment address) then .error (.unknownKind (Text.ofList address))
  else
    checkBrackets (host address)
    checkMarks (host address)
    .ok (Text.ofList address)

end Address

end FamilyDesign.Http
