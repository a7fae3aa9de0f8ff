import ToastRelay.Proofs.Endpoint.Change
import ToastRelay.Proofs.Toast.Reading
import ToastRelay.Proofs.Web.Host

/-!
# The characters of toasts

A document announces itself as XML 1.0, in which most control characters must not stand, not even as
references. Escaping leaves them where they are. So a toast holds legal characters only if all texts
that it shows do, and this is not asked of the texts of a notification.
-/

namespace ToastRelay.Markup
set_option autoImplicit false

open Toast

/-- The characters that may stand in an XML 1.0 document. -/
def IsXmlChar (c : Char) : Prop :=
  c = '\t' ∨ c = '\n' ∨ c = '\r' ∨ 0x20 ≤ c.toNat ∧ c.toNat ≤ 0xD7FF ∨
    0xE000 ≤ c.toNat ∧ c.toNat ≤ 0xFFFD ∨ 0x10000 ≤ c.toNat ∧ c.toNat ≤ 0x10FFFF

instance (c : Char) : Decidable (IsXmlChar c) :=
  inferInstanceAs (Decidable (_ ∨ _))

def Legal (s : List Char) : Prop := ∀ c ∈ s, IsXmlChar c

instance (s : List Char) : Decidable (Legal s) :=
  decidable_of_iff (s.all (IsXmlChar ·) = true) (by simp [Legal])

def IsXmlText (s : String) : Prop := ∀ c ∈ s.toList, IsXmlChar c

instance (s : String) : Decidable (IsXmlText s) :=
  inferInstanceAs (Decidable (Legal s.toList))

@[simp] theorem legal_nil : Legal [] := by simp [Legal]

@[simp] theorem legal_cons {c : Char} {s : List Char} : Legal (c :: s) ↔ IsXmlChar c ∧ Legal s :=
  List.forall_mem_cons

@[simp] theorem legal_append {s t : List Char} : Legal (s ++ t) ↔ Legal s ∧ Legal t :=
  List.forall_mem_append

theorem legal_flatMap {α : Type} {f : α → List Char} {xs : List α} :
    Legal (xs.flatMap f) ↔ ∀ x ∈ xs, Legal (f x) :=
  List.forall_mem_flatMap

theorem legal_escapedChar (c : Char) : Legal (escapedChar c) ↔ IsXmlChar c := by
  rcases escapedChar_cases c with h | ⟨h, -⟩
  · have hall : ∀ r ∈ references, Legal r.2 ∧ IsXmlChar r.1 := by decide
    exact iff_of_true (hall _ h).1 (hall _ h).2
  · rw [h, legal_cons, and_iff_left legal_nil]

/-- Escaping neither brings in an illegal character nor takes one out. -/
theorem legal_encode (s : String) : Legal (encode s) ↔ IsXmlText s := by
  rw [encode, legal_flatMap]
  exact forall₂_congr fun c _ => legal_escapedChar c

theorem isXmlChar_of_isNameCharacter {c : Char} (h : isNameCharacter c = true) : IsXmlChar c := by
  have hrange : 0x20 ≤ c.toNat ∧ c.toNat ≤ 0xD7FF := by
    rcases Bool.or_eq_true_iff.mp h with h | h
    · have hletter := Text.toNat_of_isAlphanum h
      omega
    · have hmarks : ∀ d ∈ ['-', '.', ':', '_'], 0x20 ≤ d.toNat ∧ d.toNat ≤ 0xD7FF := by simp
      exact hmarks c (List.contains_iff_mem.mp h)
  exact Or.inr (Or.inr (Or.inr (Or.inl hrange)))

theorem IsName.legal {s : String} (h : IsName s) : Legal s.toList :=
  fun c hc => isXmlChar_of_isNameCharacter (h.2 c hc)

theorem legal_attributes {attributes : Attributes} (h : ∀ a ∈ attributes, IsName a.1) :
    Legal (attributes.flatMap attributeChars) ↔ ∀ a ∈ attributes, IsXmlText a.2 := by
  rw [legal_flatMap]
  refine forall₂_congr fun a ha => ?_
  have hmarks : IsXmlChar ' ' ∧ IsXmlChar '=' ∧ IsXmlChar '"' := by decide
  simp [attributeChars, (h a ha).legal, legal_encode, hmarks]

namespace Tag

def attributes : Tag → Attributes
  | .declaration attributes => attributes
  | .opening _ attributes => attributes
  | .closing _ => []
  | .single _ attributes => attributes

theorem legal_chars {t : Tag} (h : t.Proper) :
    Legal t.chars ↔ ∀ a ∈ t.attributes, IsXmlText a.2 := by
  have hmarks : IsXmlChar '?' ∧ IsXmlChar ' ' ∧ IsXmlChar '/' := by decide
  have hxml : IsXmlChar 'x' ∧ IsXmlChar 'm' ∧ IsXmlChar 'l' := by decide
  cases t with
  | declaration attributes => simp [chars, Tag.attributes, legal_attributes h, hmarks, hxml]
  | opening name attributes => simp [chars, Tag.attributes, legal_attributes h.2, h.1.legal]
  | closing name => simpa [chars, Tag.attributes, hmarks] using h.legal
  | single name attributes => simp [chars, Tag.attributes, legal_attributes h.2, h.1.legal, hmarks]

end Tag

theorem legal_write {xs : List Stretch} (h : ∀ x ∈ xs, x.1.Proper) :
    Legal (write xs) ↔
      ∀ x ∈ xs, (∀ a ∈ x.1.attributes, IsXmlText a.2) ∧ IsXmlText x.2 := by
  rw [write, legal_flatMap]
  refine forall₂_congr fun x hx => ?_
  have hmarks : IsXmlChar '<' ∧ IsXmlChar '>' := by decide
  simp [stretchChars, Tag.legal_chars (h x hx), legal_encode, hmarks]

end ToastRelay.Markup

namespace ToastRelay.Toast

open Markup

namespace Contents

/-- The texts that are shown. -/
def texts (c : Contents) : List String :=
  c.launch.toList ++ [c.title, c.message] ++ c.hero.toList ++ [c.logo]

theorem isXmlText_stretches (c : Contents) :
    (∀ x ∈ c.document.stretches, (∀ a ∈ x.1.attributes, IsXmlText a.2) ∧ IsXmlText x.2) ↔
      ∀ s ∈ c.texts, IsXmlText s := by
  have hconstants : ∀ s ∈ ["", "1.0", "utf-8", "ToastGeneric", "hero", "appLogoOverride", "circle"],
      IsXmlText s := by
    decide
  simp only [List.forall_mem_cons] at hconstants
  obtain ⟨title, message, launch, hero, logo⟩ := c
  cases launch <;> cases hero <;>
    simp [document, textNode, heroNode, logoNode, texts, Document.stretches, Node.stretches,
      childStretches, Tag.attributes, List.forall_mem_cons, hconstants, -Prod.forall,
      -List.mem_cons]

end Contents

/-- Whatever the title, the message and the extras are, the document holds an illegal character if
and only if one of the texts that it shows holds one. -/
theorem document_is_legal_iff (title message : String) (extras : Option ToastExtras) :
    IsXmlText (document title message extras) ↔
      ∀ s ∈ (contents title message extras).texts, IsXmlText s := by
  have hlegal := legal_write (contents title message extras).proper_document
  rw [← toList_document] at hlegal
  exact hlegal.trans (Contents.isXmlText_stretches _)

/-- A message with a control character is accepted and delivered, and the document of the
notification holds it too. -/
theorem accepted_message_is_not_legal :
    let grant := Reply.answer 200
      (Text.encode "\x7b\"access_token\":\"tok\",\"expires_in\":3600\x7d") 0
    let provider : Provider := ⟨[("https://login.example/token", [grant]),
      ("https://wns.example/1", [.answer 201 [] 0])], []⟩
    let rs : Registrations :=
      Dictionary.ofList [("dev", ⟨"dev", "https://wns.example/1", none, none⟩)]
    let tokens : TokenSource := ⟨"https://login.example/token", some ⟨"id", "secret"⟩, none⟩
    let service : Service := ⟨⟨rs, .memory ⟨rs, 0, .succeed⟩⟩, tokens⟩
    let request : HttpRequest := ⟨"POST", "/api/notify.windows/send",
      Text.encode "\x7b\"title\":\"t\",\"message\":\"a\\u0001b\"\x7d"⟩
    let n : Notification := ⟨"a\x01b", some "t", none, none⟩
    (service.answer request ⟨provider, fun _ => 0, [], []⟩).1.1 = .sent ⟨["dev"], []⟩ ∧
    (request.value?.bind fun v => (Notification.ofRequest v).toOption) = some n ∧
    '\x01' ∈ n.document.toList ∧ ¬ IsXmlChar '\x01' := by
  intro grant provider rs tokens service request n
  have hdocument : '\x01' ∈ (document "t" "a\x01b" none).toList := by
    rw [toList_document]
    decide +kernel
  exact ⟨by decide +kernel, by decide +kernel, hdocument, by decide⟩

end ToastRelay.Toast
