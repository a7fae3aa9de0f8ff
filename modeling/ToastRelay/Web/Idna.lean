import ToastRelay.Text.Normal
import ToastRelay.Web.Idna.Mapping
import ToastRelay.Web.Idna.Permitted
import ToastRelay.Web.Idna.Mark
import ToastRelay.Web.Idna.Joining
import ToastRelay.Web.Idna.Direction
import ToastRelay.Web.Idna.Punycode

/-!
# International host names

The characters of a host name are mapped to lower case and plain forms, the result is normalised
and cut into labels, and each label is checked: its characters must be permitted, it must not begin
with a mark, joiners need the right neighbours, and once any label of the name runs from right to
left all of them must keep one direction. A label that begins with `xn--` is checked as the label it
stands for. The labels of a valid name are what this module gives; writing them in ASCII again is
not part of it.
-/

namespace ToastRelay.Web.Idna
set_option autoImplicit false

open Text

/-- ASCII characters that no host name holds: controls, the blank and those that end a host or have
another meaning there. -/
def isForbidden (c : Char) : Bool :=
  c.toNat ≤ 0x20 || c.toNat = 0x7F ||
    ['%', '#', '/', ':', '<', '>', '?', '@', '[', '\\', ']', '^', '|'].contains c

/-- How a label begins that stands for another one. -/
def encodedStart : List Char := ['x', 'n', '-', '-']

/-- What a character is replaced by; a character without a replacement may not occur. -/
def mapping (c : Char) : Option (List Char) :=
  if c.toNat < 0x80 then some [c.toLower]
  else match listedMapping c with
    | some cs => some cs
    | none => if isPermitted c then some [c] else none

def mayHold (c : Char) : Bool := isPermitted c && !isForbidden c

def virama : Nat := 9

/-- Whether the letters around a non-joiner, beyond the transparent ones, would join. -/
def joinsAcross (before after : List Char) : Bool :=
  let reach := fun s : List Char => (s.dropWhile (joiningType · = .transparent)).head?.map joiningType
  (reach before = some .left || reach before = some .dual) &&
    (reach after = some .right || reach after = some .dual)

/-- Whether every joiner and non-joiner of a label stands where it has an effect. The characters
before are held last first. -/
def joinersFit : List Char → List Char → Bool
  | _, [] => true
  | before, c :: after =>
    let behindVirama := match before with
      | [] => false
      | b :: _ => combiningClass b = virama
    (if c.toNat = 0x200D then behindVirama
      else if c.toNat = 0x200C then behindVirama || joinsAcross before after
      else true) && joinersFit (c :: before) after

def labelFits (s : List Char) : Bool :=
  s.all mayHold && !(s.head?.any isMark) && joinersFit [] s

def runsLeft (s : List Char) : Bool :=
  s.any fun c => direction c = .rightToLeft || direction c = .arabicNumber

/-- The direction of the last character that is no mark. -/
def finalDirection (s : List Char) : Option Direction :=
  ((s.reverse.map direction).dropWhile (· = .mark)).head?

/-- Whether a label keeps the direction of its first character. -/
def keepsDirection (s : List Char) : Bool :=
  match s with
  | [] => true
  | c :: _ =>
    let ds := s.map direction
    match direction c with
    | .leftToRight =>
      ds.all (fun d => d ≠ .rightToLeft && d ≠ .arabicNumber) &&
        (finalDirection s = some .leftToRight || finalDirection s = some .europeanNumber)
    | .rightToLeft =>
      ds.all (· ≠ .leftToRight) &&
        (finalDirection s = some .rightToLeft || finalDirection s = some .europeanNumber ||
          finalDirection s = some .arabicNumber) &&
        !(ds.contains .europeanNumber && ds.contains .arabicNumber)
    | _ => false

/-- The longest label that is turned into ASCII, and the longest one read back. -/
def longestEncoded : Nat := 1000

def longestDecoded : Nat := 2000

def isAscii (s : List Char) : Bool := s.all (·.toNat < 0x80)

/-- The label that a mapped label stands for, if it is a valid one. -/
def checkedLabel (s : List Char) : Option (List Char) :=
  if encodedStart.isPrefixOf s then
    let written := s.drop encodedStart.length
    if !isAscii written || written.getLast?.all (· = '-') || longestDecoded < written.length then none
    else match decodeLabel written with
      | none => none
      | some label =>
        if labelFits label && compose label = label && label.length ≤ longestEncoded then some label
        else none
  else if isAscii s then
    if s.all mayHold then some s else none
  else if labelFits s && s.length ≤ longestEncoded then some s
  else none

def labels? (host : List Char) : Option (List (List Char)) :=
  match host.mapM mapping with
  | none => none
  | some mapped =>
    let text := mapped.flatten
    let text := if isAscii text then text else compose text
    match (fields '.' text).mapM checkedLabel with
    | none => none
    | some labels =>
      if labels.any runsLeft && !labels.all keepsDirection then none else some labels

end ToastRelay.Web.Idna
