/-!
# Dictionaries

A finite map from texts, held as its entries in strictly ascending order of the keys. The order of
texts compares code points, which is also the order of their UTF-8 bytes. As the order is part of
the type, two dictionaries with the same entries are equal, however they came about.

The operations come twice: on entry lists, where members of a JSON object live as well, and on
dictionaries.
-/

namespace ToastRelay
set_option autoImplicit false

variable {α : Type}

def Ascending (entries : List (String × α)) : Prop :=
  entries.Pairwise fun a b => a.1 < b.1

/-- Gives a key a value, in place of the one that it has. -/
def insertEntry (key : String) (value : α) : List (String × α) → List (String × α)
  | [] => [(key, value)]
  | (k, v) :: rest =>
    if key < k then (key, value) :: (k, v) :: rest
    else if k < key then (k, v) :: insertEntry key value rest
    else (key, value) :: rest

def eraseEntry (key : String) (entries : List (String × α)) : List (String × α) :=
  entries.filter (·.1 ≠ key)

def valueAt? (key : String) (entries : List (String × α)) : Option α :=
  (entries.find? (·.1 = key)).map (·.2)

theorem mem_insertEntry {key : String} {value : α} {entries : List (String × α)}
    {e : String × α} (h : e ∈ insertEntry key value entries) : e = (key, value) ∨ e ∈ entries := by
  induction entries with
  | nil => simpa [insertEntry] using h
  | cons d entries ih =>
    simp only [insertEntry] at h
    split at h
    · exact List.mem_cons.mp h
    · split at h
      · rcases List.mem_cons.mp h with rfl | h
        · exact Or.inr List.mem_cons_self
        · exact (ih h).imp_right (List.mem_cons_of_mem _)
      · exact (List.mem_cons.mp h).imp_right (List.mem_cons_of_mem _)

theorem insertEntry_of_forall_lt {entries : List (String × α)} {key : String}
    (h : ∀ e ∈ entries, e.1 < key) (value : α) :
    insertEntry key value entries = entries ++ [(key, value)] := by
  induction entries with
  | nil => rfl
  | cons e entries ih =>
    obtain ⟨he, hentries⟩ := List.forall_mem_cons.mp h
    rw [insertEntry, if_neg (String.lt_asymm he), if_pos he, ih hentries, List.cons_append]

theorem ascending_insertEntry {entries : List (String × α)} (h : Ascending entries) (key : String)
    (value : α) : Ascending (insertEntry key value entries) := by
  induction entries with
  | nil => simp [insertEntry, Ascending]
  | cons d entries ih =>
    obtain ⟨hd, ht⟩ := List.pairwise_cons.mp h
    simp only [insertEntry]
    split
    · next hlt =>
      refine List.pairwise_cons.mpr ⟨fun e he => ?_, h⟩
      rcases List.mem_cons.mp he with rfl | he
      · exact hlt
      · exact String.lt_trans hlt (hd e he)
    · next hge =>
      split
      · next hlt =>
        refine List.pairwise_cons.mpr ⟨fun e he => ?_, ih ht⟩
        rcases mem_insertEntry he with rfl | he
        · exact hlt
        · exact hd e he
      · next hle =>
        have heq : key = d.1 := by
          rcases Std.lt_trichotomy key d.1 with hlt | heq | hgt
          · exact absurd hlt hge
          · exact heq
          · exact absurd hgt hle
        exact List.pairwise_cons.mpr ⟨fun e he => heq ▸ hd e he, ht⟩

@[simp] theorem valueAt?_nil (key : String) : valueAt? key ([] : List (String × α)) = none := rfl

theorem valueAt?_cons (key : String) (e : String × α) (entries : List (String × α)) :
    valueAt? key (e :: entries) = if e.1 = key then some e.2 else valueAt? key entries := by
  by_cases h : e.1 = key <;> simp [valueAt?, h]

theorem valueAt?_insertEntry (key k : String) (value : α) (entries : List (String × α)) :
    valueAt? k (insertEntry key value entries) =
      if key = k then some value else valueAt? k entries := by
  induction entries with
  | nil => simp [insertEntry, valueAt?_cons]
  | cons d entries ih =>
    simp only [insertEntry]
    split
    · simp [valueAt?_cons]
    · next hge =>
      split
      · next hlt =>
        rw [valueAt?_cons, valueAt?_cons, ih]
        by_cases hk : key = k
        · subst hk
          simp [String.ne_of_lt hlt]
        · simp [hk]
      · next hle =>
        have heq : key = d.1 := String.le_antisymm hle hge
        rw [valueAt?_cons, valueAt?_cons, ← heq]
        by_cases hk : key = k <;> simp [hk]

theorem valueAt?_eraseEntry (key k : String) (entries : List (String × α)) :
    valueAt? k (eraseEntry key entries) = if key = k then none else valueAt? k entries := by
  induction entries with
  | nil => simp [eraseEntry]
  | cons d entries ih =>
    by_cases hd : d.1 = key
    · have he : eraseEntry key (d :: entries) = eraseEntry key entries := by simp [eraseEntry, hd]
      rw [he, ih, valueAt?_cons, hd]
      by_cases hk : key = k <;> simp [hk]
    · have he : eraseEntry key (d :: entries) = d :: eraseEntry key entries := by
        simp [eraseEntry, hd]
      rw [he, valueAt?_cons, valueAt?_cons, ih]
      by_cases hk : key = k
      · simp [← hk, hd]
      · simp [hk]

theorem ascending_eraseEntry {entries : List (String × α)} (h : Ascending entries) (key : String) :
    Ascending (eraseEntry key entries) := h.filter _

structure Dictionary (α : Type) where
  entries : List (String × α)
  ascending : Ascending entries
  deriving DecidableEq

namespace Dictionary

theorem ext {d e : Dictionary α} (h : d.entries = e.entries) : d = e := by
  cases d
  cases e
  cases h
  rfl

def empty : Dictionary α := ⟨[], List.Pairwise.nil⟩

def insert (d : Dictionary α) (key : String) (value : α) : Dictionary α :=
  ⟨insertEntry key value d.entries, ascending_insertEntry d.ascending key value⟩

def erase (d : Dictionary α) (key : String) : Dictionary α :=
  ⟨eraseEntry key d.entries, ascending_eraseEntry d.ascending key⟩

def get? (d : Dictionary α) (key : String) : Option α := valueAt? key d.entries

def size (d : Dictionary α) : Nat := d.entries.length

def keys (d : Dictionary α) : List String := d.entries.map (·.1)

/-- The dictionary of a list of entries, where the last entry of a key counts. -/
def ofList (entries : List (String × α)) : Dictionary α :=
  entries.foldl (fun d e => d.insert e.1 e.2) empty

instance : Inhabited (Dictionary α) := ⟨empty⟩

@[simp] theorem get?_empty (key : String) : (empty : Dictionary α).get? key = none := rfl

theorem get?_insert (d : Dictionary α) (key k : String) (value : α) :
    (d.insert key value).get? k = if key = k then some value else d.get? k :=
  valueAt?_insertEntry key k value d.entries

theorem get?_erase (d : Dictionary α) (key k : String) :
    (d.erase key).get? k = if key = k then none else d.get? k :=
  valueAt?_eraseEntry key k d.entries

end Dictionary

end ToastRelay
