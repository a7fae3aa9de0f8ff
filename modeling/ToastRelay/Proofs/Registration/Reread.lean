import ToastRelay.Proofs.Dictionary
import ToastRelay.Proofs.Json.Naturals
import ToastRelay.Proofs.Registration.File
import ToastRelay.Proofs.Registration.Schema

/-!
# Written registrations as requests

A registration that passed the schema passes it again when it is written as an object, and so does
what is read from the text of that object, alone or as an entry of the registrations file. The only
thing that the schema asks of a registration is that its channel is a web address.
-/

namespace ToastRelay
set_option autoImplicit false

open Reader

namespace Reader

variable {steps depth indent : Nat} {blanks : List Char}

theorem takes_value_object {ms found : List (String × Json)}
    (h : ReadsMembers (valueMember steps (depth + 1)) (indent + 1) [] ms found)
    (hsteps : ms.length < steps) (hblanks : ∀ c ∈ blanks, Cursor.isBlank c = true)
    (rest : List Char) : (value steps (depth + 2)).Takes (.object found)
      (blanks ++ ((Json.object ms).indentedChars indent ++ rest)) rest := by
  obtain ⟨body, hbody⟩ := indentedObject_cons indent ms
  have hobject := takes_object h hsteps rest
  rw [hbody] at hobject ⊢
  refine (takes_nextBehindBlanks hblanks rfl _ _).bind ?_
  exact hobject.bind (takes_pure _ rest)

theorem readsMembers_values {α : Type} (written back : α → Json) {entries : List (String × α)}
    (h : ∀ e ∈ entries, ∀ rest, EndsMember rest → (value steps depth).Takes (back e.2)
      (' ' :: ((written e.2).indentedChars indent ++ rest)) rest) (found : List (String × Json)) :
    ReadsMembers (valueMember steps depth) indent found
      (entries.map fun (key, a) => (key, written a))
      (entries.foldl (fun found e => insertEntry e.1 (back e.2) found) found) := by
  induction entries generalizing found with
  | nil => exact .nil found
  | cons e entries ih =>
    obtain ⟨he, hentries⟩ := List.forall_mem_cons.mp h
    refine .cons (fun rest hrest => ?_) (ih hentries _)
    exact (takes_colon _).bind ((he rest hrest).bind (takes_pure _ rest))

end Reader

namespace Registration

variable {r : Registration}

def members (r : Registration) : List (String × Json) :=
  [("id", .string r.id), ("channel", .string r.channel)] ++
    r.expiry.toList.map (fun n => ("expiry", .number (.natural n))) ++
    r.name.toList.map (fun s => ("name", .string s))

theorem toJson_eq (r : Registration) : r.toJson = .object r.members := rfl

/-- The members of a registration, read from its object. -/
def reread (r : Registration) : Dictionary Json := Dictionary.ofList r.members

theorem allowed_of_mem_members (h : Web.isWebAddress r.channel = true) {e : String × Json}
    (he : e ∈ r.members) : Allowed e.1 e.2 := by
  simp only [members, List.mem_append, List.mem_cons, List.not_mem_nil, or_false, List.mem_map] at he
  rcases he with ((rfl | rfl) | ⟨n, -, rfl⟩) | ⟨s, -, rfl⟩
  · exact .id r.id
  · exact .channel r.channel h
  · exact .expiry n
  · exact .name s

theorem valueAt?_members (r : Registration) {entries : List (String × Json)}
    (h : entries = r.members ∨ entries = r.members.reverse) :
    valueAt? "id" entries = some (.string r.id) ∧
    valueAt? "channel" entries = some (.string r.channel) ∧
    valueAt? "expiry" entries = r.expiry.map (fun n => .number (.natural n)) ∧
    valueAt? "name" entries = r.name.map .string := by
  obtain ⟨id, channel, expiry, name⟩ := r
  rcases h with rfl | rfl <;> cases expiry <;> cases name <;> simp [members, valueAt?_cons]

theorem ofRequest_eq_ok {entries : List (String × Json)}
    (hallowed : ∀ e ∈ entries, Allowed e.1 e.2)
    (h : valueAt? "id" entries = some (.string r.id) ∧
      valueAt? "channel" entries = some (.string r.channel) ∧
      valueAt? "expiry" entries = r.expiry.map (fun n => .number (.natural n)) ∧
      valueAt? "name" entries = r.name.map .string) : ofRequest (.object entries) = .ok r := by
  obtain ⟨hid, hchannel, hexpiry, hname⟩ := h
  refine ofRequest_eq_ok_iff.mpr ⟨entries, rfl, ?_, ?_, ?_, ?_, ?_⟩
  · exact violations_eq_nil_iff.mpr ⟨hallowed, by rw [hid]; rfl, by rw [hchannel]; rfl⟩
  · rw [hid]
    rfl
  · rw [hchannel]
    rfl
  · rw [hexpiry]
    cases r.expiry <;> rfl
  · rw [hname]
    cases r.name <;> rfl

/-- A registration is accepted as it is written if and only if its channel is a web address. -/
theorem ofRequest_toJson_iff : ofRequest r.toJson = .ok r ↔ Web.isWebAddress r.channel = true := by
  refine ⟨isWebAddress_of_ofRequest, fun h => ?_⟩
  rw [toJson_eq]
  exact ofRequest_eq_ok (fun _ => allowed_of_mem_members h) (r.valueAt?_members (Or.inl rfl))

theorem ofRequest_reread (h : Web.isWebAddress r.channel = true) :
    ofRequest (.object r.reread.entries) = .ok r := by
  refine ofRequest_eq_ok (fun e he => allowed_of_mem_members h (Dictionary.mem_of_mem_ofList he)) ?_
  have hvalues := r.valueAt?_members (Or.inr rfl)
  rwa [← Dictionary.get?_ofList, ← Dictionary.get?_ofList, ← Dictionary.get?_ofList,
    ← Dictionary.get?_ofList] at hvalues

theorem takes_value (r : Registration) {steps : Nat} (hsteps : 4 < steps) (depth indent : Nat)
    {blanks : List Char} (hblanks : ∀ c ∈ blanks, Cursor.isBlank c = true) (rest : List Char) :
    (value steps (depth + 2)).Takes (.object r.reread.entries)
      (blanks ++ (r.toJson.indentedChars indent ++ rest)) rest := by
  have hlength : r.members.length ≤ 4 := by
    rw [members]
    cases r.expiry <;> cases r.name <;> simp
  have hfields : ∀ m ∈ r.members, ∀ rest, EndsMember rest → (value steps (depth + 1)).Takes m.2
      (' ' :: (m.2.indentedChars (indent + 1) ++ rest)) rest := by
    intro m hm rest hrest
    simp only [members, List.mem_append, List.mem_cons, List.not_mem_nil, or_false,
      List.mem_map] at hm
    rcases hm with ((rfl | rfl) | ⟨n, -, rfl⟩) | ⟨s, -, rfl⟩
    · exact takes_value_string (fun _ => isBlank_of_mem_space) r.id rest
    · exact takes_value_string (fun _ => isBlank_of_mem_space) r.channel rest
    · have hnatural := takes_value_natural n (fun _ => isBlank_of_mem_space) hrest.endsNumber steps
        depth
      rw [Json.indentedChars, toList_text_natural]
      simpa using hnatural
    · exact takes_value_string (fun _ => isBlank_of_mem_space) s rest
  have hreads := readsMembers_values (fun v => v) (fun v => v) hfields []
  rw [List.map_id'' (fun _ => rfl)] at hreads
  rw [toJson_eq, reread, Dictionary.entries_ofList]
  exact takes_value_object hreads (Nat.lt_of_le_of_lt hlength hsteps) hblanks rest

theorem ofBytes_indented (r : Registration) :
    Json.ofBytes (Text.encode r.toJson.indented) = .ok (.object r.reread.entries) := by
  have hlong : 4 < (r.toJson.indentedChars 0).length :=
    (length_lt_object 0 r.members).2 (List.cons_ne_nil _ _)
  have hnone : ∀ c ∈ ([] : List Char), Cursor.isBlank c = true := by simp
  have hvalue := r.takes_value hlong 126 0 hnone []
  rw [List.nil_append, List.append_nil] at hvalue
  rw [Json.ofBytes, Text.pieces_encode, Json.indented, String.toList_ofList]
  exact whole_eq_ok hvalue

end Registration

namespace Registrations

/-- The registrations, each by the object that it is read as. -/
def reread (rs : Registrations) : List (String × Json) :=
  rs.entries.map fun (key, r) => (key, .object r.reread.entries)

theorem ascending_reread (rs : Registrations) : Ascending rs.reread :=
  List.pairwise_map.mpr rs.ascending

theorem foldl_reread (rs : Registrations) :
    rs.entries.foldl (fun found e => insertEntry e.1 (.object e.2.reread.entries) found) [] =
      rs.reread := by
  have hmap := Dictionary.entries_ofList_of_ascending rs.ascending_reread
  rw [Dictionary.entries_ofList] at hmap
  exact List.foldl_map.symm.trans hmap

/-- The registrations file is read as an object of the registrations, under their keys. -/
theorem ofBytes_contentOf (rs : Registrations) :
    Json.ofBytes (RegistrationsFile.contentOf rs) = .ok (.object rs.reread) := by
  have htext : rs.toText.toList = rs.toJson.indentedChars 0 := by
    rw [toText, Json.indented, String.toList_ofList]
  obtain ⟨hlength, hlong⟩ := length_lt_object 0 (rs.entries.map fun (key, r) => (key, r.toJson))
  rw [RegistrationsFile.contentOf, Json.ofBytes, Text.pieces_encode, htext, toJson]
  generalize hsteps : ((Json.object (rs.entries.map fun (key, r) => (key, r.toJson))).indentedChars
    0).length = steps at hlength hlong
  have hentries : ∀ e ∈ rs.entries, ∀ rest, EndsMember rest → (value steps 127).Takes
      (.object e.2.reread.entries) (' ' :: (e.2.toJson.indentedChars 1 ++ rest)) rest := by
    intro e he rest _
    have hsome : rs.entries.map (fun (key, r) => (key, r.toJson)) ≠ [] := by
      simpa using List.ne_nil_of_mem he
    exact e.2.takes_value (hlong hsome) 125 1 (fun _ => isBlank_of_mem_space) rest
  have hreads := readsMembers_values Registration.toJson
    (fun r => Json.object r.reread.entries) hentries []
  rw [rs.foldl_reread] at hreads
  have hnone : ∀ c ∈ ([] : List Char), Cursor.isBlank c = true := by simp
  have hobject := takes_value_object hreads hlength hnone []
  rw [List.nil_append, List.append_nil] at hobject
  apply whole_eq_ok
  rw [hsteps]
  exact hobject

end Registrations

end ToastRelay
