import Outreach.Address.Host
import Outreach.Service.Client
import Outreach.Text.Digit
import Outreach.Text.Half

set_option autoImplicit false

namespace Outreach

structure Address where
  scheme : List Char
  host : List Char
  deriving DecidableEq, Repr

namespace Address

def isLetter (c : Char) : Bool := ('a' ≤ c && c ≤ 'z') || ('A' ≤ c && c ≤ 'Z')

def isSchemeCharacter (c : Char) : Bool :=
  isLetter c || Numeral.isAsciiDigit c || c = '+' || c = '.' || c = '-'

def splitScheme (cs : List Char) : List Char × List Char :=
  match cs.span isSchemeCharacter with
  | (scheme, ':' :: rest) =>
    if scheme.head?.all isLetter then (scheme, rest)
    else ([], cs)
  | _ => ([], cs)

def splitAuthority : List Char → List Char × List Char
  | '/' :: '/' :: rest => rest.span fun c => c != '/' && c != '?' && c != '#'
  | cs => ([], cs)

def splitUser (authority : List Char) : List Char × List Char :=
  match authority.reverse.span (· != '@') with
  | (rest, _ :: user) => (user.reverse, rest.reverse)
  | (_, []) => ([], authority)

def splitHost (cs : List Char) : List Char × List Char :=
  match cs, cs.reverse.span (· != ']') with
  | '[' :: _, (rest, bracket :: host) => ((bracket :: host).reverse, rest.reverse)
  | _, _ => cs.span (· != ':')

def isGrouped : List Char → Bool
  | [] => false
  | [c] => Text.isDigit c
  | c :: '_' :: rest => Text.isDigit c && isGrouped rest
  | c :: rest => Text.isDigit c && isGrouped rest

def isPort (cs : List Char) : Bool :=
  let (_, digits) := Numeral.sign (Text.trimBy Text.isBlank cs)
  cs.isEmpty || (isGrouped digits && (digits.filter Text.isDigit).length ≤ Text.numeralLimit)

def isPath (alone : Bool) (path : List Char) : Bool :=
  !alone || !("//".toList.isPrefixOf path || path.head? == some ':')

def lengthLimit : Nat := 65536

def isControl (c : Char) : Bool := c.toNat < 0x20 || c.toNat = 0x7F

def ofText (s : String) : Except Defect Address :=
  let malformed := Defect.malformedAddress
  let encodable (cs : List Char) : Bool := Text.encodable (String.ofList cs)
  let cs := s.toList
  if lengthLimit < (Text.units cs).length || cs.any isControl then .error malformed
  else
    let (scheme, rest) := splitScheme cs
    let (authority, rest) := splitAuthority rest
    let (user, location) := splitUser authority
    let (host, port) := splitHost location
    let port := if port.head? = some ':' then port.tail else port
    let alone := scheme.isEmpty && user.isEmpty && host.isEmpty && port.isEmpty
    let path := rest.takeWhile fun c => c != '?' && c != '#'
    if !encodable user then .error .unencodable
    else if !isHost host || !isPort port || !isPath alone path then .error malformed
    else if !encodable rest then .error .unencodable
    else .ok { scheme, host }

def isComplete (address : Address) : Bool := !address.scheme.isEmpty && !address.host.isEmpty

def hostDefect : LabelFault → Defect
  | .malformed => .malformedHost
  | .character => .hostCharacter
  | .context => .hostContext
  | .direction => .hostDirection

def checkHost (address : Address) : Except Defect Unit :=
  let name := address.host.map Char.toLower
  if address.isComplete && isPlain name && encodedMark.isPrefixOf name then
    (checkPlainName name).mapError hostDefect
  else .ok ()

def locate (s : String) : Except Defect Site :=
  (ofText s).map fun address => { host := address.checkHost, complete := address.isComplete }

@[reducible]
def client : Client := { locate }

end Address

end Outreach
