import ToastRelay.Proofs.Json.Numbers

/-!
# What a JSON text is

The grammar of RFC 8259, stated on characters and without a word about readers. A value may have
blanks in front of it, and the blanks behind it belong to what follows. Of a string there are two
readings: which characters may stand between its quotation marks, and which string they spell.
-/

namespace ToastRelay.Json
set_option autoImplicit false

open Text

def Blanks (s : List Char) : Prop := ∀ c ∈ s, Cursor.isBlank c = true

theorem blanks_nil : Blanks [] := fun _ h => absurd h List.not_mem_nil

theorem Blanks.append {s t : List Char} (hs : Blanks s) (ht : Blanks t) : Blanks (s ++ t) :=
  List.forall_mem_append.mpr ⟨hs, ht⟩

/-! ## Strings -/

/-- The letters that stand for a character behind a backslash. -/
def letterEscapes : List (Char × Char) :=
  [('"', '"'), ('\\', '\\'), ('/', '/'), ('b', '\x08'), ('f', '\x0c'), ('n', '\n'), ('r', '\r'),
    ('t', '\t')]

/-- A character that stands for itself inside a string. -/
def IsPlain (c : Char) : Prop := c ≠ '"' ∧ c ≠ '\\' ∧ 0x20 ≤ c.toNat

instance (c : Char) : Decidable (IsPlain c) := inferInstanceAs (Decidable (_ ∧ _ ∧ _))

def IsFourDigits (s : List Char) : Prop := s.length = 4 ∧ ∀ c ∈ s, isHexDigit c = true

inductive IsStringBody : List Char → Prop where
  | nil : IsStringBody []
  | plain {c : Char} {s : List Char} (hc : IsPlain c) (h : IsStringBody s) : IsStringBody (c :: s)
  | letter {c d : Char} {s : List Char} (hc : (c, d) ∈ letterEscapes) (h : IsStringBody s) :
      IsStringBody ('\\' :: c :: s)
  | number {digits s : List Char} (hdigits : IsFourDigits digits) (h : IsStringBody s) :
      IsStringBody ('\\' :: 'u' :: (digits ++ s))

/-- What spells one character inside a string. A character beyond the first plane is spelled as a
pair of numbers, neither of which spells anything alone. -/
inductive Spells : Char → List Char → Prop where
  | plain {c : Char} (hc : IsPlain c) : Spells c [c]
  | letter {c d : Char} (hc : (c, d) ∈ letterEscapes) : Spells d ['\\', c]
  | number {digits : List Char} (hdigits : IsFourDigits digits)
      (hnumber : numberOf 16 digits < 0xD800 ∨ 0xDFFF < numberOf 16 digits) :
      Spells (Char.ofNat (numberOf 16 digits)) ('\\' :: 'u' :: digits)
  | pair {high low : List Char} (hhigh : IsFourDigits high) (hlow : IsFourDigits low)
      (hhigh' : 0xD800 ≤ numberOf 16 high ∧ numberOf 16 high ≤ 0xDBFF)
      (hlow' : 0xDC00 ≤ numberOf 16 low ∧ numberOf 16 low ≤ 0xDFFF) :
      Spells (Char.ofNat
        ((numberOf 16 high - 0xD800) * 1024 + (numberOf 16 low - 0xDC00) + 0x10000))
        ('\\' :: 'u' :: (high ++ '\\' :: 'u' :: low))

inductive SpellsAll : List Char → List Char → Prop where
  | nil : SpellsAll [] []
  | cons {c : Char} {cs s t : List Char} (first : Spells c s) (more : SpellsAll cs t) :
      SpellsAll (c :: cs) (s ++ t)

theorem Spells.append {c : Char} {s t : List Char} (h : Spells c s) (ht : IsStringBody t) :
    IsStringBody (s ++ t) := by
  cases h with
  | plain hc => exact .plain hc ht
  | letter hc => exact .letter hc ht
  | number hdigits => exact .number hdigits ht
  | pair hhigh hlow =>
    simp only [List.cons_append, List.append_assoc]
    exact .number hhigh (.number hlow ht)

theorem SpellsAll.isStringBody {cs s : List Char} (h : SpellsAll cs s) : IsStringBody s := by
  induction h with
  | nil => exact .nil
  | cons first _ ih => exact first.append ih

/-! ## Numbers -/

def IsDigits (s : List Char) : Prop := s ≠ [] ∧ ∀ c ∈ s, c.isDigit = true

/-- The digits of a number before its point. No zero stands in front of others. -/
inductive IsWhole : List Char → Prop where
  | zero : IsWhole ['0']
  | digits {c : Char} {s : List Char} (hc : c ≠ '0') (h : ∀ d ∈ c :: s, d.isDigit = true) :
      IsWhole (c :: s)

inductive IsFraction : List Char → Prop where
  | none : IsFraction []
  | digits {s : List Char} (h : IsDigits s) : IsFraction ('.' :: s)

inductive IsExponent : List Char → Prop where
  | none : IsExponent []
  | digits {mark : Char} {sign s : List Char} (hmark : mark = 'e' ∨ mark = 'E')
      (hsign : sign = [] ∨ sign = ['+'] ∨ sign = ['-']) (h : IsDigits s) :
      IsExponent (mark :: (sign ++ s))

def IsUnsigned (s : List Char) : Prop :=
  ∃ whole fraction exponent, IsWhole whole ∧ IsFraction fraction ∧ IsExponent exponent ∧
    s = whole ++ (fraction ++ exponent)

theorem IsUnsigned.ne_nil {s : List Char} (h : IsUnsigned s) : s ≠ [] := by
  obtain ⟨whole, fraction, exponent, hwhole, -, -, rfl⟩ := h
  cases hwhole with
  | zero => exact List.cons_ne_nil _ _
  | digits => exact List.cons_ne_nil _ _

/-! ## Containers -/

section Containers
variable {α β : Type}

/-- Items with commas between them, from the first item on or, if an item stands before them, from
the comma behind it on. Blanks may stand before a comma and behind the last item. -/
inductive Separated (Item : α → List Char → Prop) : Bool → List α → List Char → Prop where
  | none {first : Bool} {s : List Char} (h : Blanks s) : Separated Item first [] s
  | first {a : α} {as : List α} {s t : List Char} (h : Item a s) (more : Separated Item false as t) :
      Separated Item true (a :: as) (s ++ t)
  | next {a : α} {as : List α} {blanks s t : List Char} (hblanks : Blanks blanks) (h : Item a s)
      (more : Separated Item false as t) :
      Separated Item false (a :: as) (blanks ++ ',' :: (s ++ t))

variable {Item : α → List Char → Prop} {Item' : β → List Char → Prop} {first : Bool} {as : List α}
  {s t : List Char}

theorem Separated.append_blanks (h : Separated Item first as s) (ht : Blanks t) :
    Separated Item first as (s ++ t) := by
  induction h with
  | none hs => exact .none (hs.append ht)
  | first h _ ih =>
    rw [List.append_assoc]
    exact .first h ih
  | next hblanks h _ ih =>
    rw [List.append_assoc, List.cons_append, List.append_assoc]
    exact .next hblanks h ih

theorem Separated.exists_items {P : β → Prop} (h : Separated Item first as s)
    (hitem : ∀ a ∈ as, ∀ t, Item a t → ∃ b, Item' b t ∧ P b) :
    ∃ bs, Separated Item' first bs s ∧ ∀ b ∈ bs, P b := by
  induction h with
  | none hs => exact ⟨[], .none hs, fun _ h => absurd h List.not_mem_nil⟩
  | first h _ ih =>
    obtain ⟨hfirst, hmore⟩ := List.forall_mem_cons.mp hitem
    obtain ⟨b, hb, hP⟩ := hfirst _ h
    obtain ⟨bs, hbs, hall⟩ := ih hmore
    exact ⟨b :: bs, .first hb hbs, List.forall_mem_cons.mpr ⟨hP, hall⟩⟩
  | next hblanks h _ ih =>
    obtain ⟨hfirst, hmore⟩ := List.forall_mem_cons.mp hitem
    obtain ⟨b, hb, hP⟩ := hfirst _ h
    obtain ⟨bs, hbs, hall⟩ := ih hmore
    exact ⟨b :: bs, .next hblanks hb hbs, List.forall_mem_cons.mpr ⟨hP, hall⟩⟩

/-- A member of an object: a name that is known in some way, and the text of its value. -/
def IsMember (Name : α → List Char → Prop) (m : α × List Char) (s : List Char) : Prop :=
  ∃ before name between, Blanks before ∧ Name m.1 name ∧ Blanks between ∧
    s = before ++ '"' :: (name ++ '"' :: (between ++ ':' :: m.2))

end Containers

def IsName (name s : List Char) : Prop := s = name ∧ IsStringBody s

/-- Names that are told by the texts of strings. -/
structure IsNaming {α : Type} (Name : α → List Char → Prop) : Prop where
  body {a : α} {s : List Char} (h : Name a s) : IsStringBody s
  unique {a a' : α} {s : List Char} (h : Name a s) (h' : Name a' s) : a = a'

theorem isNaming_isName : IsNaming IsName where
  body h := h.2
  unique h h' := h.1.symm.trans h'.1

def Spelled (name : String) (s : List Char) : Prop := SpellsAll name.toList s

theorem separated_isName {P : List Char → Prop} {first : Bool} {ms : List (String × List Char)}
    {s : List Char} (h : Separated (IsMember Spelled) first ms s) (hP : ∀ m ∈ ms, P m.2) :
    ∃ members, Separated (IsMember IsName) first members s ∧ ∀ m ∈ members, P m.2 := by
  refine h.exists_items fun m hm t ht => ?_
  obtain ⟨before, name, between, hbefore, hname, hbetween, rfl⟩ := ht
  exact ⟨(name, m.2), ⟨before, name, between, hbefore, ⟨rfl, hname.isStringBody⟩, hbetween, rfl⟩,
    hP m hm⟩

/-- A value of any kind, with blanks in front of it. -/
inductive IsValue : List Char → Prop where
  | blanks {s t : List Char} (hs : Blanks s) (h : IsValue t) : IsValue (s ++ t)
  | word {s : String} (h : s ∈ ["null", "true", "false"]) : IsValue s.toList
  | number {s : List Char} (h : IsUnsigned s) : IsValue s
  | negative {s : List Char} (h : IsUnsigned s) : IsValue ('-' :: s)
  | string {s : List Char} (h : IsStringBody s) : IsValue ('"' :: (s ++ ['"']))
  | list {items : List (List Char)} {s : List Char} (h : ∀ item ∈ items, IsValue item)
      (hs : Separated Eq true items s) : IsValue ('[' :: (s ++ [']']))
  | object {members : List (List Char × List Char)} {s : List Char}
      (h : ∀ m ∈ members, IsValue m.2) (hs : Separated (IsMember IsName) true members s) :
      IsValue ('\x7b' :: (s ++ ['\x7d']))

/-- A text that is one object with these members, and blanks around it. -/
def IsObjectOf {α : Type} (Name : α → List Char → Prop) (ms : List (α × List Char))
    (s : List Char) : Prop :=
  ∃ before inside after, Blanks before ∧ Separated (IsMember Name) true ms inside ∧ Blanks after ∧
    s = before ++ '\x7b' :: (inside ++ '\x7d' :: after)

def IsObjectText (s : List Char) : Prop :=
  ∃ members, IsObjectOf IsName members s ∧ ∀ m ∈ members, IsValue m.2

theorem IsObjectOf.exists_isName {P : List Char → Prop} {ms : List (String × List Char)}
    {s : List Char} (h : IsObjectOf Spelled ms s) (hP : ∀ m ∈ ms, P m.2) :
    ∃ members, IsObjectOf IsName members s ∧ ∀ m ∈ members, P m.2 := by
  obtain ⟨before, inside, after, hbefore, hms, hafter, rfl⟩ := h
  obtain ⟨members, hmembers, hall⟩ := separated_isName hms hP
  exact ⟨members, ⟨before, inside, after, hbefore, hmembers, hafter, rfl⟩, hall⟩

/-! ## Values that are asked for -/

section Values
variable {α : Type}

def IsNull (s : List Char) : Prop := ∃ before, Blanks before ∧ s = before ++ "null".toList

def IsString (string : String) (s : List Char) : Prop :=
  ∃ before body, Blanks before ∧ SpellsAll string.toList body ∧
    s = before ++ '"' :: (body ++ ['"'])

def IsNatural (n : UInt64) (s : List Char) : Prop :=
  ∃ before, Blanks before ∧ s = before ++ Nat.toDigits 10 n.toNat

/-- A value, or `null` for none. -/
inductive IsOptional (P : α → List Char → Prop) : Option α → List Char → Prop where
  | none {s : List Char} (h : IsNull s) : IsOptional P none s
  | some {a : α} {s : List Char} (h : P a s) : IsOptional P (some a) s

variable {s t : List Char}

theorem IsNull.behind (h : IsNull t) (hs : Blanks s) : IsNull (s ++ t) := by
  obtain ⟨before, hbefore, rfl⟩ := h
  exact ⟨s ++ before, hs.append hbefore, (List.append_assoc _ _ _).symm⟩

theorem IsString.behind {string : String} (h : IsString string t) (hs : Blanks s) :
    IsString string (s ++ t) := by
  obtain ⟨before, body, hbefore, hbody, rfl⟩ := h
  exact ⟨s ++ before, body, hs.append hbefore, hbody, (List.append_assoc _ _ _).symm⟩

theorem IsNatural.behind {n : UInt64} (h : IsNatural n t) (hs : Blanks s) :
    IsNatural n (s ++ t) := by
  obtain ⟨before, hbefore, rfl⟩ := h
  exact ⟨s ++ before, hs.append hbefore, (List.append_assoc _ _ _).symm⟩

theorem IsOptional.behind {P : α → List Char → Prop} {o : Option α} (h : IsOptional P o t)
    (hs : Blanks s) (hP : ∀ a, P a t → P a (s ++ t)) : IsOptional P o (s ++ t) := by
  cases h with
  | none h => exact .none (h.behind hs)
  | some h => exact .some (hP _ h)

theorem IsNull.isValue (h : IsNull t) : IsValue t := by
  obtain ⟨before, hbefore, rfl⟩ := h
  exact .blanks hbefore (.word (by simp))

theorem IsString.isValue {string : String} (h : IsString string t) : IsValue t := by
  obtain ⟨before, body, hbefore, hbody, rfl⟩ := h
  exact .blanks hbefore (.string hbody.isStringBody)

theorem IsNatural.isValue {n : UInt64} (h : IsNatural n t) : IsValue t := by
  obtain ⟨before, hbefore, rfl⟩ := h
  refine .blanks hbefore (.number ⟨Nat.toDigits 10 n.toNat, [], [], ?_, .none, .none, by simp⟩)
  obtain ⟨c, digits, hdigits, -, hzero⟩ := toDigits_ten_cons n.toNat
  have hall : ∀ d ∈ Nat.toDigits 10 n.toNat, d.isDigit = true := fun d hd =>
    Nat.isDigit_of_mem_toDigits (by decide) (by decide) hd
  rw [hdigits] at hall ⊢
  by_cases hc : c = '0'
  · rw [hc, (hzero hc).2]
    exact .zero
  · exact .digits hc hall

theorem IsOptional.isValue {P : α → List Char → Prop} {o : Option α} (h : IsOptional P o t)
    (hP : ∀ a, P a t → IsValue t) : IsValue t := by
  cases h with
  | none h => exact h.isValue
  | some h => exact hP _ h

end Values

end ToastRelay.Json
