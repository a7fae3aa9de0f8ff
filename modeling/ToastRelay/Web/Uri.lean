/-!
# Request targets

The target of a request in the strict form in which it is sent: an absolute one with scheme and
authority, an authority alone, or a path. In an absolute target everything is ASCII; the part behind
a number sign is dropped without a look at it. `http` and `https` are recognised in either case,
other schemes are kept as they are written.
-/

namespace ToastRelay.Web
set_option autoImplicit false

inductive UriFault where
  | invalidCharacter
  | invalidAuthority
  | invalidFormat
  | tooLong
  | empty
  | schemeTooLong
  deriving DecidableEq, Repr

def UriFault.text : UriFault → String
  | .invalidCharacter => "invalid uri character"
  | .invalidAuthority => "invalid authority"
  | .invalidFormat => "invalid format"
  | .tooLong => "uri too long"
  | .empty => "empty string"
  | .schemeTooLong => "scheme too long"

/-- A request target; what is absent is empty. The path is empty or begins with a slash or a star. -/
structure Uri where
  scheme : Option (List Char)
  authority : List Char
  path : List Char
  query : Option (List Char)
  deriving DecidableEq, Repr

namespace Uri

/-- The most bytes of a target, and of a scheme. -/
def longest : Nat := 65534

def longestScheme : Nat := 64

/-- The most colons of an authority in one stretch. -/
def mostColons : Nat := 8

def isSchemeCharacter (c : Char) : Bool :=
  c.isAlphanum || ['+', '-', '.', '~'].contains c

/-- The characters of an authority; a percent sign is looked at separately. -/
def isAuthorityCharacter (c : Char) : Bool :=
  c.isAlphanum ||
    ['!', '$', '&', '\'', '(', ')', '*', '+', ',', '-', '.', ':', ';', '=', '@', '[', ']', '_',
      '~'].contains c

def isPathCharacter (c : Char) : Bool :=
  let n := c.toNat
  0x21 ≤ n && n ≤ 0x7E && !(['#', '<', '>', '?', '\x60'].contains c)

def isQueryCharacter (c : Char) : Bool :=
  let n := c.toNat
  0x21 ≤ n && n ≤ 0x7E && !(['"', '#', '<', '>'].contains c)

def otherScheme (s : List Char) : Except UriFault (Option (List Char × List Char)) :=
  let name := s.takeWhile isSchemeCharacter
  match s.drop name.length with
  | ':' :: '/' :: '/' :: rest =>
    if longestScheme < name.length then .error .schemeTooLong else .ok (some (name, rest))
  | _ => .ok none

def scheme? (s : List Char) : Except UriFault (Option (List Char × List Char)) :=
  let begins := fun n => (s.take n).map Char.toLower
  if begins 7 = ['h', 't', 't', 'p', ':', '/', '/'] then
    .ok (some (['h', 't', 't', 'p'], s.drop 7))
  else if begins 8 = ['h', 't', 't', 'p', 's', ':', '/', '/'] then
    .ok (some (['h', 't', 't', 'p', 's'], s.drop 8))
  else if s.length ≤ 3 then .ok none
  else otherScheme s

/-- What was seen of an authority so far. Colons and percent signs count from the last bracket or
`@` on. -/
structure Scan where
  colons : Nat
  opened : Bool
  closed : Bool
  percent : Bool
  endsInAt : Bool

def Scan.start : Scan := ⟨0, false, false, false, false⟩

def Scan.push (a : Scan) (c : Char) : Except UriFault Scan :=
  if c = ':' then
    if mostColons ≤ a.colons then .error .invalidAuthority
    else .ok ⟨a.colons + 1, a.opened, a.closed, a.percent, false⟩
  else if c = '[' then
    if a.percent || a.opened then .error .invalidAuthority
    else .ok ⟨a.colons, true, a.closed, a.percent, false⟩
  else if c = ']' then
    if !a.opened || a.closed then .error .invalidAuthority
    else .ok ⟨0, a.opened, true, false, false⟩
  else if c = '@' then .ok ⟨0, a.opened, a.closed, false, true⟩
  else if c = '%' then .ok ⟨a.colons, a.opened, a.closed, true, false⟩
  else if isAuthorityCharacter c then .ok ⟨a.colons, a.opened, a.closed, a.percent, false⟩
  else .error .invalidCharacter

def endsAuthority (c : Char) : Bool := c = '/' || c = '?' || c = '#'

/-- Reads the authority at the front of a text, which may be empty. -/
def splitAuthority (s : List Char) : Except UriFault (List Char × List Char) := do
  let a := s.takeWhile (!endsAuthority ·)
  let scan ← a.foldlM Scan.push Scan.start
  if scan.opened ≠ scan.closed then throw .invalidAuthority
  if 1 < scan.colons then throw .invalidAuthority
  if scan.endsInAt then throw .invalidAuthority
  if scan.percent then throw .invalidAuthority
  return (a, s.drop a.length)

def pathAndQuery (s : List Char) : Except UriFault (List Char × Option (List Char)) :=
  let path := s.takeWhile isPathCharacter
  match s.drop path.length with
  | [] | '#' :: _ => .ok (path, none)
  | '?' :: r =>
    let query := r.takeWhile isQueryCharacter
    match r.drop query.length with
    | [] | '#' :: _ => .ok (path, some query)
    | _ => .error .invalidCharacter
  | _ => .error .invalidCharacter

/-- A path has a slash in front. -/
def rooted (path : List Char) : List Char :=
  match path with
  | '/' :: _ | '*' :: _ => path
  | _ => '/' :: path

def ofText (text : String) : Except UriFault Uri := do
  let s := text.toList
  if longest < text.utf8ByteSize then throw .tooLong
  match s with
  | [] => throw .empty
  | ['*'] => return ⟨none, [], ['*'], none⟩
  | '/' :: _ =>
    let (path, query) ← pathAndQuery s
    return ⟨none, [], path, query⟩
  | [c] =>
    if endsAuthority c then throw .invalidCharacter
    let (a, _) ← splitAuthority s
    return ⟨none, a, [], none⟩
  | _ =>
    match ← scheme? s with
    | none =>
      let (a, rest) ← splitAuthority s
      if rest ≠ [] then throw .invalidFormat
      return ⟨none, a, [], none⟩
    | some (scheme, rest) =>
      let (a, rest) ← splitAuthority rest
      if a = [] then throw .invalidFormat
      let (path, query) ← pathAndQuery rest
      return ⟨some scheme, a, rooted path, query⟩

def target (u : Uri) : List Char :=
  u.path ++ match u.query with
    | none => []
    | some q => '?' :: q

/-- The whole target without what was dropped. -/
def text (u : Uri) : String :=
  String.ofList <| (match u.scheme with
    | none => []
    | some s => s ++ [':', '/', '/']) ++ u.authority ++ u.target

end Uri

end ToastRelay.Web
