import ToastRelay.Text.Fields

/-!
# Reading marked up text

A document is cut at the angle brackets into tags and the character data behind them, and a tag is
cut at its quotation marks into its name and its attributes. Then the tags are paired up, so that
every element that is opened is closed by its own name. In character data and in the values of
attributes an ampersand begins one of five references, and all other characters stand for
themselves. Comments, references by number and other definitions are not read.
-/

namespace ToastRelay.Markup
set_option autoImplicit false

abbrev Attributes := List (String × String)

inductive Tag where
  | declaration (attributes : Attributes)
  | opening (name : String) (attributes : Attributes)
  | closing (name : String)
  | single (name : String) (attributes : Attributes)
  deriving DecidableEq, Repr

abbrev Stretch := Tag × String

/-- An element, with the text before its first child and the text behind its end. -/
inductive Node where
  | element (name : String) (attributes : Attributes) (text : String) (children : List Node)
    (tail : String)
  | single (name : String) (attributes : Attributes) (tail : String)
  deriving Repr

structure Document where
  declaration : Attributes
  root : Node
  deriving Repr

def decode : List Char → Option (List Char)
  | [] => some []
  | '&' :: 'a' :: 'm' :: 'p' :: ';' :: s => (decode s).map ('&' :: ·)
  | '&' :: 'l' :: 't' :: ';' :: s => (decode s).map ('<' :: ·)
  | '&' :: 'g' :: 't' :: ';' :: s => (decode s).map ('>' :: ·)
  | '&' :: 'q' :: 'u' :: 'o' :: 't' :: ';' :: s => (decode s).map ('"' :: ·)
  | '&' :: 'a' :: 'p' :: 'o' :: 's' :: ';' :: s => (decode s).map ('\'' :: ·)
  | c :: s => if c = '&' then none else (decode s).map (c :: ·)

def decodeText (s : List Char) : Option String := (decode s).map String.ofList

/-! ## Tags -/

def isNameCharacter (c : Char) : Bool := c.isAlphanum || ['-', '.', ':', '_'].contains c

def name? (s : List Char) : Option (String × List Char) :=
  let name := s.takeWhile isNameCharacter
  if name = [] then none else some (String.ofList name, s.drop name.length)

/-- The attributes in the pieces of a tag between its quotation marks, and what ends the tag. -/
def attributes? : List (List Char) → Option (Attributes × List Char)
  | [] => none
  | [ending] => some ([], ending)
  | front :: value :: more =>
    match front with
    | ' ' :: s => do
      let (name, rest) ← name? s
      if rest ≠ ['='] then none
      else do
        let text ← decodeText value
        let (attributes, ending) ← attributes? more
        return ((name, text) :: attributes, ending)
    | _ => none

def body? (s : List Char) : Option (String × Attributes × List Char) := do
  let (name, rest) ← name? s
  let (attributes, ending) ← attributes? (Text.fields '"' rest)
  return (name, attributes, ending)

def beginning? (s : List Char) : Option Tag := do
  let (name, attributes, ending) ← body? s
  if ending = [] then some (.opening name attributes)
  else if ending = [' ', '/'] then some (.single name attributes)
  else none

def tag? : List Char → Option Tag
  | '?' :: s => do
    let (name, attributes, ending) ← body? s
    if name = "xml" ∧ ending = ['?'] then some (.declaration attributes) else none
  | '/' :: s => do
    let (name, rest) ← name? s
    if rest = [] then some (.closing name) else none
  | s => beginning? s

/-- The tag and the character data between two opening brackets. -/
def stretch? (s : List Char) : Option Stretch :=
  match Text.fields '>' s with
  | [tag, data] => do return (← tag? tag, ← decodeText data)
  | _ => none

def stretches? (s : List Char) : Option (List Stretch) :=
  match Text.fields '<' s with
  | [] :: more => more.mapM stretch?
  | _ => none

/-! ## Elements -/

/-- An element whose end is still to come, with the nodes before it, the last one first. -/
structure Opened where
  name : String
  attributes : Attributes
  text : String
  before : List Node

/-- Pairs up the tags inside the elements that are open, where nodes have been read already, the
last one first. -/
def pairUp : List Stretch → List Opened → List Node → Option (List Node)
  | [], [], nodes => some nodes.reverse
  | [], _ :: _, _ => none
  | (.declaration _, _) :: _, _, _ => none
  | (.opening name attributes, text) :: more, opened, nodes =>
    pairUp more (⟨name, attributes, text, nodes⟩ :: opened) []
  | (.single name attributes, tail) :: more, opened, nodes =>
    pairUp more opened (.single name attributes tail :: nodes)
  | (.closing _, _) :: _, [], _ => none
  | (.closing name, tail) :: more, e :: opened, nodes =>
    if name = e.name then
      pairUp more opened (.element e.name e.attributes e.text nodes.reverse tail :: e.before)
    else none

def read (text : String) : Option Document :=
  match stretches? text.toList with
  | some ((.declaration attributes, "") :: more) =>
    match pairUp more [] [] with
    | some [root] => some ⟨attributes, root⟩
    | _ => none
  | _ => none

end ToastRelay.Markup
