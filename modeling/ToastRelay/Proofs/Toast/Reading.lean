import ToastRelay.Proofs.Markup.RoundTrip

/-!
# Toasts are read as they were meant

The document of a notification is what is written for one tree, in which the caller's texts are
texts of elements and values of attributes. So no text can become markup, and whoever reads the
document finds the texts again.
-/

namespace ToastRelay.Toast
set_option autoImplicit false

open Markup

/-- What a toast shows: its texts, and what it opens and shows beside them if that is given. -/
structure Contents where
  title : String
  message : String
  launch : Option String
  hero : Option String
  logo : String
  deriving DecidableEq, Repr

/-- An empty launch text or hero picture is none, and there is always a logo. -/
def contents (title message : String) (extras : Option ToastExtras) : Contents where
  title := title
  message := message
  launch := (extras.bind (·.launch)).filter (· ≠ "")
  hero := (extras.bind (·.hero)).filter (· ≠ "")
  logo := (extras.bind (·.logo)).getD defaultLogo

namespace Contents

def textNode (s : String) : Node := .element "text" [] s [] ""

def heroNode (hero : String) : Node := .single "image" [("src", hero), ("placement", "hero")] ""

def logoNode (logo : String) : Node :=
  .single "image" [("src", logo), ("placement", "appLogoOverride"), ("hint-crop", "circle")] ""

def document (c : Contents) : Document where
  declaration := [("version", "1.0"), ("encoding", "utf-8")]
  root := .element "toast" (c.launch.toList.map fun s => ("launch", s)) "" [
    .element "visual" [] "" [
      .element "binding" [("template", "ToastGeneric")] "" (
        [textNode c.title, textNode c.message] ++ c.hero.toList.map heroNode ++
          [logoNode c.logo]) ""] ""] ""

theorem document_injective {c d : Contents} (h : c.document = d.document) : c = d := by
  obtain ⟨title, message, launch, hero, logo⟩ := c
  obtain ⟨title', message', launch', hero', logo'⟩ := d
  simp only [document, textNode, logoNode, List.cons_append, List.nil_append, Document.mk.injEq,
    Node.element.injEq, List.cons.injEq, true_and, and_true] at h
  obtain ⟨hlaunch, rfl, rfl, hpictures⟩ := h
  have hlaunch : launch = launch' := by
    cases launch <;> cases launch' <;> simp_all
  have hpictures : hero = hero' ∧ logo = logo' := by
    cases hero <;> cases hero' <;> simp_all [heroNode]
  rw [hlaunch, hpictures.1, hpictures.2]

theorem proper_document (c : Contents) : c.document.Proper := by
  have hnames : ∀ s ∈ ["version", "encoding", "toast", "launch", "visual", "binding", "template",
      "text", "image", "src", "placement", "hint-crop"], IsName s := by
    decide
  obtain ⟨title, message, launch, hero, logo⟩ := c
  simp only [List.forall_mem_cons] at hnames
  cases launch <;> cases hero <;>
    simp [Document.Proper, document, Document.stretches, textNode, heroNode, logoNode,
      Node.stretches, childStretches, List.forall_mem_cons, Tag.Proper, hnames,
      -Prod.forall, -List.mem_cons]

end Contents

theorem toList_escape (s : String) : (escape s).toList = encode s := String.toList_ofList

theorem toList_launchAttribute (s : String) :
    (launchAttribute s).toList = attributeChars ("launch", s) := by
  simp [launchAttribute, toList_escape, attributeChars]

theorem toList_textElement (s : String) :
    (textElement s).toList = write (Contents.textNode s).stretches := by
  simp [textElement, toList_escape, Contents.textNode, write, Node.stretches, childStretches,
    stretchChars, Tag.chars]

theorem toList_heroElement (s : String) :
    (heroElement s).toList = write (Contents.heroNode s).stretches := by
  have hhero : encode "hero" = "hero".toList := by decide
  simp [heroElement, toList_escape, Contents.heroNode, write, Node.stretches, stretchChars,
    Tag.chars, attributeChars, hhero]

theorem toList_logoElement (s : String) :
    (logoElement s).toList = write (Contents.logoNode s).stretches := by
  have hplacement : encode "appLogoOverride" = "appLogoOverride".toList := by decide
  have hcrop : encode "circle" = "circle".toList := by decide
  simp [logoElement, toList_escape, Contents.logoNode, write, Node.stretches, stretchChars,
    Tag.chars, attributeChars, hplacement, hcrop]

theorem toList_launch (launch : Option String) :
    ((launch.map launchAttribute).getD "").toList =
      (launch.toList.map fun s => ("launch", s)).flatMap attributeChars := by
  cases launch with
  | none => rfl
  | some s => simp [toList_launchAttribute]

theorem toList_hero (hero : Option String) :
    ((hero.map heroElement).getD "").toList =
      write (childStretches (hero.toList.map Contents.heroNode)) := by
  cases hero with
  | none => rfl
  | some s => simp [toList_heroElement, childStretches]

-- The constant pieces are variables here, because no literal of that length is to be compared with
-- an append.
theorem toList_append_eq_write (c : Contents) {front middle back : String}
    (hfront : front.toList =
      stretchChars (.declaration [("version", "1.0"), ("encoding", "utf-8")], "") ++
        '<' :: "toast".toList)
    (hmiddle : middle.toList =
      '>' :: (stretchChars (.opening "visual" [], "") ++
        stretchChars (.opening "binding" [("template", "ToastGeneric")], "")))
    (hback : back.toList =
      stretchChars (.closing "binding", "") ++ (stretchChars (.closing "visual", "") ++
        stretchChars (.closing "toast", ""))) :
    (front ++ (c.launch.map launchAttribute).getD "" ++ middle ++ textElement c.title ++
      textElement c.message ++ (c.hero.map heroElement).getD "" ++ logoElement c.logo ++
      back).toList = write c.document.stretches := by
  have htoast (attributes : Attributes) : stretchChars (.opening "toast" attributes, "") =
      '<' :: ("toast".toList ++ (attributes.flatMap attributeChars ++ ['>'])) := by
    simp only [stretchChars, Tag.chars, encode_empty, List.append_nil, List.append_assoc]
  simp only [String.toList_append, toList_launch, toList_hero, toList_textElement,
    toList_logoElement, hfront, hmiddle, hback]
  simp only [Contents.document, Document.stretches, Node.stretches, childStretches,
    childStretches_append, write_cons, write_append, write_nil, htoast, List.append_assoc,
    List.cons_append, List.append_nil, List.nil_append]

theorem toList_document (title message : String) (extras : Option ToastExtras) :
    (document title message extras).toList =
      write (contents title message extras).document.stretches := by
  cases extras with
  | none =>
    exact toList_append_eq_write (contents title message none) (by decide +kernel)
      (by decide +kernel) (by decide +kernel)
  | some e =>
    exact toList_append_eq_write (contents title message (some e)) (by decide +kernel)
      (by decide +kernel) (by decide +kernel)

/-- Whatever the title, the message and the extras are, the document reads as the one in which they
are shown, and two notifications have the same document only if they show the same. -/
theorem document_reads_back (title message : String) (extras : Option ToastExtras) :
    read (document title message extras) = some (contents title message extras).document ∧
    ∀ title' message' extras', document title' message' extras' = document title message extras ↔
      contents title' message' extras' = contents title message extras := by
  have hread (title message : String) (extras : Option ToastExtras) :
      read (document title message extras) = some (contents title message extras).document := by
    rw [← Document.read_write (Contents.proper_document _), ← toList_document,
      String.ofList_toList]
  refine ⟨hread title message extras, fun title' message' extras' => ⟨fun h => ?_, fun h => ?_⟩⟩
  · have hsame := hread title' message' extras'
    rw [h, hread title message extras] at hsame
    exact (Contents.document_injective (Option.some.inj hsame)).symm
  · have hsame := toList_document title' message' extras'
    rw [h, ← toList_document] at hsame
    exact String.toList_inj.mp hsame

example : contents "t" "m" (some ⟨some "", none, some defaultLogo⟩) = contents "t" "m" none := by
  decide

end ToastRelay.Toast
