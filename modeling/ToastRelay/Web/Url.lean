import ToastRelay.Text.Utf8
import ToastRelay.Web.Address
import ToastRelay.Web.Idna

/-!
# Web addresses

Whether a text is an address of the schemes `http` or `https` with a host, read as leniently as
browsers read it: blanks and controls around it are dropped, tabs and line ends inside it are
skipped, any number of slashes or backslashes may stand before the host, and the host may be given
by international or percent-encoded characters. What comes after the host and the port is never
refused. Nothing is resolved or changed here.
-/

namespace ToastRelay.Web
set_option autoImplicit false

open Text

def isControlOrBlank (c : Char) : Bool := c.toNat ≤ 0x20

def isSkipped (c : Char) : Bool := c = '\t' || c = '\n' || c = '\r'

/-- The characters of an address that count. -/
def significant (s : List Char) : List Char :=
  (((s.dropWhile isControlOrBlank).reverse.dropWhile isControlOrBlank).reverse).filter
    (!isSkipped ·)

def isSchemeCharacter (c : Char) : Bool :=
  c.isAlphanum || c = '+' || c = '-' || c = '.'

def scheme? (s : List Char) : Option (List Char × List Char) :=
  match s.dropWhile isSchemeCharacter with
  | ':' :: rest =>
    if s.head?.any Char.isAlpha then
      some ((s.takeWhile isSchemeCharacter).map Char.toLower, rest)
    else none
  | _ => none

def isSlash (c : Char) : Bool := c = '/' || c = '\\'

def endsAuthority (c : Char) : Bool := isSlash c || c = '?' || c = '#'

def withoutUser (authority : List Char) : List Char :=
  (authority.reverse.takeWhile (· ≠ '@')).reverse

/-- Cuts host and port at the first colon outside brackets; the host so far is held last character
first. -/
def cutPort (host : List Char) (brackets : Bool) : List Char → List Char × Option (List Char)
  | [] => (host.reverse, none)
  | c :: r =>
    if c = ':' && !brackets then (host.reverse, some r)
    else cutPort (c :: host) (if c = '[' then true else if c = ']' then false else brackets) r

/-- A port is empty or a number below 2^16. -/
def isPort (s : List Char) : Bool := s.all Char.isDigit && numberOf 10 s ≤ 65535

/-- Replaces each percent sign and two hexadecimal digits by the byte they give, behind the bytes
already done, which are held last first. -/
def percentDecodeOnto (done : Bytes) : Bytes → Bytes
  | a :: b :: c :: r =>
    let x := Char.ofNat b.toNat
    let y := Char.ofNat c.toNat
    if a = 0x25 && isHexDigit x && isHexDigit y then
      percentDecodeOnto (UInt8.ofNat (16 * digitOf x + digitOf y) :: done) r
    else percentDecodeOnto (a :: done) (b :: c :: r)
  | r => done.reverse ++ r

def percentDecode (s : Bytes) : Bytes := percentDecodeOnto [] s

/-- Whether a name, with its percent signs decoded, is a valid host. -/
def isHostName (s : List Char) : Bool :=
  match chars? (percentDecode (encode (String.ofList s))) with
  | none => false
  | some name =>
    match Idna.labels? name with
    | none => false
    | some labels =>
      let host := joinFields '.' labels
      !host.isEmpty && (!endsInNumber host || isShortAddress host)

def isHost (s : List Char) : Bool :=
  match s with
  | '[' :: r => r.getLast? = some ']' && isLongAddress r.dropLast
  | _ => isHostName s

/-- Whether a text is an address of one of the web schemes. -/
def isWebAddress (text : String) : Bool :=
  match scheme? (significant text.toList) with
  | none => false
  | some (scheme, rest) =>
    (scheme = ['h', 't', 't', 'p'] || scheme = ['h', 't', 't', 'p', 's']) &&
      let authority := (rest.dropWhile isSlash).takeWhile (!endsAuthority ·)
      let (host, port) := cutPort [] false (withoutUser authority)
      !host.isEmpty && isHost host && port.all isPort

end ToastRelay.Web
