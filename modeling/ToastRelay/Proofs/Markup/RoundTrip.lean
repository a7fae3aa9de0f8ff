import Mathlib.Data.List.Basic
import ToastRelay.Proofs.Markup.Reader
import ToastRelay.Toast

/-!
# Marked up text is read back

Escaped text holds no delimiter, so the places at which a written document is cut are those between
its tags, and nothing that stands in a text or in a value can move them. Reading what was written
for a document gives the document, whatever its texts and values are.
-/

namespace ToastRelay.Markup
set_option autoImplicit false

open Text Toast

def encode (s : String) : List Char := s.toList.flatMap escapedChar

@[simp] theorem encode_empty : encode "" = [] := rfl

def references : List (Char × List Char) :=
  [('&', "&amp;".toList), ('<', "&lt;".toList), ('>', "&gt;".toList), ('"', "&quot;".toList),
    ('\'', "&apos;".toList)]

theorem escapedChar_cases (c : Char) :
    (c, escapedChar c) ∈ references ∨ escapedChar c = [c] ∧ c ∉ references.map (·.1) := by
  by_cases h : c ∈ references.map (·.1)
  · have hall : ∀ r ∈ references, (r.1, escapedChar r.1) = r := by decide
    obtain ⟨r, hr, rfl⟩ := List.mem_map.mp h
    rw [hall r hr]
    exact Or.inl hr
  · refine Or.inr ⟨?_, h⟩
    simp only [references, List.map_cons, List.map_nil, List.mem_cons, List.not_mem_nil, or_false,
      not_or] at h
    simp [escapedChar, h]

theorem decode_reference :
    ∀ r ∈ references, ∀ s, decode (r.2 ++ s) = (decode s).map (r.1 :: ·) := by
  simp only [references, List.forall_mem_cons]
  exact ⟨fun _ => rfl, fun _ => rfl, fun _ => rfl, fun _ => rfl, fun _ => rfl, by simp⟩

theorem decode_append_of_escapedChar (c : Char) (s : List Char) :
    decode (escapedChar c ++ s) = (decode s).map (c :: ·) := by
  rcases escapedChar_cases c with h | ⟨h, hc⟩
  · exact decode_reference _ h s
  · have hne : c ≠ '&' := fun hc' => hc (hc' ▸ by decide)
    simp [h, decode, hne]

theorem decodeText_encode (s : String) : decodeText (encode s) = some s := by
  have h : ∀ cs : List Char, decode (cs.flatMap escapedChar) = some cs := by
    intro cs
    induction cs with
    | nil => rfl
    | cons c cs ih => rw [List.flatMap_cons, decode_append_of_escapedChar, ih, Option.map_some]
  rw [decodeText, encode, h, Option.map_some, String.ofList_toList]

/-! ## Delimiters -/

def isDelimiter (c : Char) : Bool := ['<', '>', '"'].contains c

theorem isDelimiter_of_mem_escapedChar {c d : Char} (h : d ∈ escapedChar c) :
    isDelimiter d = false := by
  rcases escapedChar_cases c with hc | ⟨hc, hnot⟩
  · have hall : ∀ r ∈ references, r.2.all (isDelimiter · = false) = true := by decide
    exact of_decide_eq_true (List.all_eq_true.mp (hall _ hc) d h)
  · have hdelimiters : ∀ e ∈ ['<', '>', '"'], e ∈ references.map (·.1) := by
      simp [references]
    rw [hc, List.mem_singleton] at h
    exact Bool.eq_false_iff.mpr fun hd =>
      hnot (hdelimiters c (List.contains_iff_mem.mp (h ▸ hd)))

theorem notMem_encode {c : Char} (h : isDelimiter c = true) (s : String) : c ∉ encode s := by
  intro hmem
  obtain ⟨d, -, hd⟩ := List.mem_flatMap.mp hmem
  rw [isDelimiter_of_mem_escapedChar hd] at h
  cases h

/-- A name that is read as a whole. -/
def IsName (s : String) : Prop := s ≠ "" ∧ ∀ c ∈ s.toList, isNameCharacter c = true

instance (s : String) : Decidable (IsName s) :=
  decidable_of_iff (s ≠ "" ∧ s.toList.all isNameCharacter = true)
    (and_congr_right' List.all_eq_true)

theorem IsName.notMem {s : String} (h : IsName s) {c : Char} (hc : isNameCharacter c = false) :
    c ∉ s.toList := by
  intro hmem
  rw [h.2 c hmem] at hc
  cases hc

theorem IsName.exists_cons {s : String} (h : IsName s) :
    ∃ c cs, s.toList = c :: cs ∧ isNameCharacter c = true := by
  obtain ⟨hne, hall⟩ := h
  cases hs : s.toList with
  | nil => exact absurd (String.toList_eq_nil_iff.mp hs) hne
  | cons c cs => exact ⟨c, cs, rfl, hall c (by rw [hs]; exact List.mem_cons_self)⟩

theorem name?_append {s : String} (h : IsName s) (rest : List Char)
    (hrest : ∀ c ∈ rest.head?, isNameCharacter c = false) :
    name? (s.toList ++ rest) = some (s, rest) := by
  have hname : (s.toList ++ rest).takeWhile isNameCharacter = s.toList := by
    rw [List.takeWhile_append_of_pos h.2]
    cases rest with
    | nil => simp
    | cons c rest => simp [hrest c rfl]
  have hne : s.toList ≠ [] := fun hs => h.1 (String.toList_eq_nil_iff.mp hs)
  simp only [name?, hname]
  rw [if_neg hne, List.drop_left, String.ofList_toList]

/-! ## Tags -/

def attributeChars (a : String × String) : List Char :=
  ' ' :: (a.1.toList ++ '=' :: '"' :: (encode a.2 ++ ['"']))

theorem attributes?_append {attributes : Attributes} (h : ∀ a ∈ attributes, IsName a.1)
    {ending : List Char} (hending : '"' ∉ ending) :
    attributes? (fields '"' (attributes.flatMap attributeChars ++ ending)) =
      some (attributes, ending) := by
  induction attributes with
  | nil => rw [List.flatMap_nil, List.nil_append, fields_of_notMem hending, attributes?]
  | cons a attributes ih =>
    obtain ⟨ha, hattributes⟩ := List.forall_mem_cons.mp h
    have hfront : '"' ∉ ' ' :: (a.1.toList ++ ['=']) := by
      have hname : '"' ∉ a.1.toList := ha.notMem (by decide)
      simp [hname]
    have hvalue : '"' ∉ encode a.2 := notMem_encode (by decide) a.2
    have hchars : (a :: attributes).flatMap attributeChars ++ ending =
        (' ' :: (a.1.toList ++ ['='])) ++ '"' ::
          (encode a.2 ++ '"' :: (attributes.flatMap attributeChars ++ ending)) := by
      simp [attributeChars]
    rw [hchars, fields_append_cons, fields_append_cons, fields_of_notMem hfront,
      fields_of_notMem hvalue, List.singleton_append, List.singleton_append, attributes?,
      name?_append ha ['='] (by simp; decide)]
    simp [ih hattributes, decodeText_encode]

theorem body?_append {name : String} {attributes : Attributes} (hname : IsName name)
    (hattributes : ∀ a ∈ attributes, IsName a.1) (ending : List Char)
    (hquote : '"' ∉ ending) (hending : ∀ c ∈ ending.head?, isNameCharacter c = false) :
    body? (name.toList ++ (attributes.flatMap attributeChars ++ ending)) =
      some (name, attributes, ending) := by
  have hrest : ∀ c ∈ (attributes.flatMap attributeChars ++ ending).head?,
      isNameCharacter c = false := by
    cases attributes with
    | nil => simpa using hending
    | cons a attributes => simp [attributeChars]; decide
  simp [body?, name?_append hname _ hrest, attributes?_append hattributes hquote]

theorem tag?_append {name : String} (h : IsName name) (rest : List Char) :
    tag? (name.toList ++ rest) = beginning? (name.toList ++ rest) := by
  obtain ⟨c, cs, hchars, hc⟩ := h.exists_cons
  rw [hchars, List.cons_append]
  unfold tag?
  split
  · next heq =>
    rw [(List.cons.inj heq).1] at hc
    cases hc
  · next heq =>
    rw [(List.cons.inj heq).1] at hc
    cases hc
  · rfl

namespace Tag

def Proper : Tag → Prop
  | .declaration attributes => ∀ a ∈ attributes, IsName a.1
  | .opening name attributes => IsName name ∧ ∀ a ∈ attributes, IsName a.1
  | .closing name => IsName name
  | .single name attributes => IsName name ∧ ∀ a ∈ attributes, IsName a.1

def chars : Tag → List Char
  | .declaration attributes => '?' :: ("xml".toList ++ (attributes.flatMap attributeChars ++ ['?']))
  | .opening name attributes => name.toList ++ (attributes.flatMap attributeChars ++ [])
  | .closing name => '/' :: name.toList
  | .single name attributes => name.toList ++ (attributes.flatMap attributeChars ++ [' ', '/'])

variable {t : Tag}

theorem tag?_chars (h : t.Proper) : tag? t.chars = some t := by
  cases t with
  | declaration attributes =>
    have hname : IsName "xml" := by decide
    have hbody := body?_append hname h ['?'] (by simp) (by simp; decide)
    rw [chars, tag?, hbody]
    rfl
  | opening name attributes =>
    have hbody := body?_append h.1 h.2 [] (by simp) (by simp)
    rw [chars, tag?_append h.1, beginning?, hbody]
    rfl
  | closing name =>
    have hname := name?_append (s := name) h [] (by simp)
    rw [List.append_nil] at hname
    rw [chars, tag?, hname]
    rfl
  | single name attributes =>
    have hbody := body?_append h.1 h.2 [' ', '/'] (by simp) (by simp; decide)
    rw [chars, tag?_append h.1, beginning?, hbody]
    rfl

theorem notMem_chars {c : Char} (hc : c = '<' ∨ c = '>') (h : t.Proper) : c ∉ t.chars := by
  have hnot : isNameCharacter c = false ∧ isDelimiter c = true ∧
      c ≠ ' ' ∧ c ≠ '=' ∧ c ≠ '"' ∧ c ≠ '?' ∧ c ≠ '/' := by
    rcases hc with rfl | rfl <;> decide
  obtain ⟨hname, hdelimiter, hspace, hequals, hquote, hmark, hslash⟩ := hnot
  have hnames : ∀ {name : String}, IsName name → c ∉ name.toList := fun hn => hn.notMem hname
  have hattributes : ∀ {attributes : Attributes}, (∀ a ∈ attributes, IsName a.1) →
      c ∉ attributes.flatMap attributeChars := by
    intro attributes h hmem
    obtain ⟨a, ha, hmem⟩ := List.mem_flatMap.mp hmem
    have hfront : c ∉ a.1.toList := hnames (h a ha)
    have hvalue : c ∉ encode a.2 := notMem_encode hdelimiter a.2
    simp [attributeChars, hspace, hequals, hquote, hfront, hvalue] at hmem
  cases t with
  | declaration attributes =>
    have hxml : c ∉ "xml".toList := hnames (by decide)
    simp only [chars, List.mem_cons, List.mem_append, List.not_mem_nil, or_false, not_or]
    exact ⟨hmark, hxml, hattributes h, hmark⟩
  | opening name attributes => simp [chars, hnames h.1, hattributes h.2]
  | closing name => simp [chars, hslash, hnames h]
  | single name attributes => simp [chars, hspace, hslash, hnames h.1, hattributes h.2]

end Tag

/-! ## Documents -/

def stretchChars (x : Stretch) : List Char := '<' :: (x.1.chars ++ '>' :: encode x.2)

def write (xs : List Stretch) : List Char := xs.flatMap stretchChars

theorem stretch?_append {x : Stretch} (h : x.1.Proper) :
    stretch? (x.1.chars ++ '>' :: encode x.2) = some x := by
  have htag : '>' ∉ x.1.chars := Tag.notMem_chars (Or.inr rfl) h
  have hdata : '>' ∉ encode x.2 := notMem_encode (by decide) x.2
  rw [stretch?, fields_append_cons, fields_of_notMem htag, fields_of_notMem hdata]
  simp [Tag.tag?_chars h, decodeText_encode]

@[simp] theorem write_nil : write [] = [] := rfl

theorem write_cons (x : Stretch) (xs : List Stretch) :
    write (x :: xs) = stretchChars x ++ write xs :=
  List.flatMap_cons

theorem write_append (xs ys : List Stretch) : write (xs ++ ys) = write xs ++ write ys :=
  List.flatMap_append

/-- What was written is cut where it was put together. -/
theorem fields_write {xs : List Stretch} (h : ∀ x ∈ xs, x.1.Proper) (front : List Char)
    (hfront : '<' ∉ front) :
    fields '<' (front ++ write xs) = front :: xs.map fun x => x.1.chars ++ '>' :: encode x.2 := by
  induction xs generalizing front with
  | nil => rw [write_nil, List.append_nil, fields_of_notMem hfront, List.map_nil]
  | cons x xs ih =>
    obtain ⟨hx, hxs⟩ := List.forall_mem_cons.mp h
    have htag : '<' ∉ x.1.chars := Tag.notMem_chars (Or.inl rfl) hx
    have hdata : '<' ∉ encode x.2 := notMem_encode (by decide) x.2
    have hmore := ih hxs (x.1.chars ++ '>' :: encode x.2) (by simp [htag, hdata])
    rw [write_cons, stretchChars, List.cons_append, fields_append_cons, fields_of_notMem hfront,
      List.singleton_append, List.map_cons, ← hmore]

theorem stretches?_write {xs : List Stretch} (h : ∀ x ∈ xs, x.1.Proper) :
    stretches? (write xs) = some xs := by
  have hfields := fields_write h [] (by simp)
  rw [List.nil_append] at hfields
  rw [stretches?, hfields]
  dsimp only
  clear hfields
  induction xs with
  | nil => rfl
  | cons x xs ih =>
    obtain ⟨hx, hxs⟩ := List.forall_mem_cons.mp h
    rw [List.map_cons, List.mapM_cons, stretch?_append hx, ih hxs]
    rfl

mutual

def Node.stretches : Node → List Stretch
  | .element name attributes text children tail =>
    (.opening name attributes, text) :: (childStretches children ++ [(.closing name, tail)])
  | .single name attributes tail => [(.single name attributes, tail)]

def childStretches : List Node → List Stretch
  | [] => []
  | node :: nodes => node.stretches ++ childStretches nodes

end

theorem childStretches_append (xs ys : List Node) :
    childStretches (xs ++ ys) = childStretches xs ++ childStretches ys := by
  induction xs with
  | nil => rfl
  | cons x xs ih => rw [List.cons_append, childStretches, childStretches, ih, List.append_assoc]

mutual

theorem pairUp_stretches (node : Node) (more : List Stretch) (opened : List Opened)
    (nodes : List Node) :
    pairUp (node.stretches ++ more) opened nodes = pairUp more opened (node :: nodes) := by
  cases node with
  | single name attributes tail => rfl
  | element name attributes text children tail =>
    rw [Node.stretches, List.cons_append, pairUp, List.append_assoc, pairUp_childStretches,
      List.singleton_append, pairUp, if_pos rfl, List.append_nil, List.reverse_reverse]

theorem pairUp_childStretches (children : List Node) (more : List Stretch) (opened : List Opened)
    (nodes : List Node) :
    pairUp (childStretches children ++ more) opened nodes =
      pairUp more opened (children.reverse ++ nodes) := by
  cases children with
  | nil => rfl
  | cons child children =>
    rw [childStretches, List.append_assoc, pairUp_stretches, pairUp_childStretches,
      List.reverse_cons, List.append_assoc, List.singleton_append]

end

namespace Document

def stretches (d : Document) : List Stretch :=
  (.declaration d.declaration, "") :: (d.root.stretches ++ [])

def Proper (d : Document) : Prop := ∀ x ∈ d.stretches, x.1.Proper

/-- A document of names that are read as a whole is read back, whatever its texts and values are. -/
theorem read_write {d : Document} (h : d.Proper) :
    read (String.ofList (write d.stretches)) = some d := by
  have hroot : pairUp (d.root.stretches ++ []) [] [] = some [d.root] :=
    pairUp_stretches d.root [] [] []
  rw [read, String.toList_ofList, stretches?_write h, stretches]
  simp only [hroot]

end Document

end ToastRelay.Markup
