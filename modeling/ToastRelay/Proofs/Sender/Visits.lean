import ToastRelay.Proofs.Sender.Records

/-!
# Visits

A target with a channel is visited: a toast goes to the channel or cannot go there, and what is logged
names the channel. The complaint that a target is unknown is none of these records, nor can it be
taken for one, as nothing that keeps a toast from its channel is told in words that end alike.
-/

namespace ToastRelay
set_option autoImplicit false

/-- The last two characters of a text, the last one first. -/
def Text.ending (s : String) : List Char := s.toList.reverse.take 2

theorem Text.ending_append (s : String) {t : String} (h : 2 ≤ t.toList.length) :
    2 ≤ (s ++ t).toList.length ∧ ending (s ++ t) = ending t := by
  rw [ending, ending, String.toList_append, List.length_append, List.reverse_append,
    List.take_append_of_le_length (by rwa [List.length_reverse])]
  exact ⟨Nat.le_add_left_of_le h, rfl⟩

theorem Web.ending_statusText (status : Nat) :
    2 ≤ (statusText status).toList.length ∧ Text.ending (statusText status) ≠ ['t', 'e'] := by
  have hphrases : ∀ phrase ∈ "<unknown status code>" :: statusPhrases.map (·.2),
      2 ≤ phrase.toList.length ∧ Text.ending phrase ≠ ['t', 'e'] := by decide +kernel
  have hphrase : (statusPhrases.lookup status).getD "<unknown status code>" ∈
      "<unknown status code>" :: statusPhrases.map (·.2) := by
    cases h : statusPhrases.lookup status with
    | none => exact List.mem_cons_self
    | some phrase =>
      obtain ⟨before, after, hphrases, -⟩ := List.lookup_eq_some_iff.mp h
      rw [hphrases]
      simp
  obtain ⟨hlength, hending⟩ := hphrases _ hphrase
  obtain ⟨hlength', hending'⟩ := Text.ending_append (toString status ++ " ") hlength
  exact ⟨hlength', fun h => hending (hending'.symm.trans h)⟩

/-- No reason for a failed delivery ends as the complaint about an unknown target does. -/
theorem DeliveryFault.ending_text (f : DeliveryFault) :
    2 ≤ f.text.toList.length ∧ Text.ending f.text ≠ ['t', 'e'] := by
  cases f with
  | badUrl f => cases f <;> decide
  | badToken => decide
  | noResponse f => cases f <;> decide
  | refused status =>
    obtain ⟨hlength, hending⟩ := Web.ending_statusText status
    obtain ⟨hlength', hending'⟩ := Text.ending_append "provider returned " hlength
    exact ⟨hlength', fun h => hending (hending'.symm.trans h)⟩

theorem RelayError.unknownTarget_ne_delivery (target channel : String) (f : DeliveryFault) :
    (unknownTarget target).text ≠ (delivery channel f.text).text := by
  obtain ⟨hlength, hending⟩ := f.ending_text
  have hunknown : Text.ending (unknownTarget target).text = ['t', 'e'] :=
    (Text.ending_append target (t := " is not a valid Windows push notification target")
      (by decide)).2
  have hdelivery : Text.ending (delivery channel f.text).text = Text.ending f.text :=
    (Text.ending_append _ hlength).2
  intro h
  rw [← hdelivery, ← h] at hending
  exact hending hunknown

/-- What can become of a target with that channel. -/
inductive Turn.Visits (channel : String) : Turn → Prop where
  | delivered {target : String} {o : Outgoing} : Web.Uri.ofText channel = .ok o.uri →
      Visits channel ⟨⟨target, some o, true⟩, [Sender.announcement channel]⟩
  | refused {target : String} {o : Outgoing} {f : DeliveryFault} :
      Web.Uri.ofText channel = .ok o.uri → Visits channel ⟨⟨target, some o, false⟩,
        [Sender.announcement channel, Sender.complaint (.delivery channel f.text)]⟩
  | notReached {target : String} {f : DeliveryFault} : Visits channel ⟨⟨target, none, false⟩,
      [Sender.announcement channel, Sender.complaint (.delivery channel f.text)]⟩
  | notSent {target : String} {f : DeliveryFault} : Visits channel ⟨⟨target, none, false⟩,
      [Sender.complaint (.delivery channel f.text)]⟩

theorem Turn.Visits.not_unknown {x : Turn} {channel : String} (h : x.Visits channel)
    (target : String) : Sender.complaint (.unknownTarget target) ∉ x.records := by
  have hcomplaint : ∀ f : DeliveryFault, Sender.complaint (.unknownTarget target) ≠
      Sender.complaint (.delivery channel f.text) := fun f h =>
    RelayError.unknownTarget_ne_delivery target channel f (congrArg LogRecord.text h)
  have hannouncement : Sender.complaint (.unknownTarget target) ≠ Sender.announcement channel :=
    fun h => by cases congrArg LogRecord.level h
  cases h with
  | delivered => simp [hannouncement]
  | refused => simp [hannouncement, hcomplaint]
  | notReached => simp [hannouncement, hcomplaint]
  | notSent => simp [hcomplaint]

theorem Turn.Goes.visits {x : Turn} {p : Provider} {authorization document channel : String}
    (h : x.Goes p authorization document (some channel)) : x.Visits channel := by
  cases h with
  | notBuilt => exact .notSent
  | missed => exact .notReached
  | rejected hbuilds => exact .refused hbuilds.address
  | delivered hbuilds => exact .delivered hbuilds.address

theorem Dictionary.mem_keys_iff {α : Type} {d : Dictionary α} {key : String} :
    key ∈ d.keys ↔ ∃ value, d.get? key = some value := by
  rw [keys, List.mem_map]
  constructor
  · rintro ⟨e, he, rfl⟩
    exact ⟨e.2, mem_entries_iff.mp he⟩
  · rintro ⟨value, hvalue⟩
    exact ⟨(key, value), mem_entries_iff.mpr hvalue, rfl⟩

namespace Sender

variable {authorization document : String}

theorem visits_of_mem_turns {rs : Registrations} {p : Provider} {x : Turn}
    (h : x ∈ turns authorization document p (rs.channelsFor [])) :
    ∃ registration, rs.get? x.target = some registration ∧ x.Visits registration.channel := by
  have hkey : x.target ∈ rs.keys := by
    have htargets := map_target_turns authorization document p (rs.channelsFor [])
    rw [rs.map_fst_channelsFor, if_pos List.isEmpty_nil] at htargets
    exact htargets ▸ List.mem_map_of_mem h
  obtain ⟨registration, hregistration⟩ := Dictionary.mem_keys_iff.mp hkey
  obtain ⟨earlier, later, hsplit⟩ := List.append_of_mem h
  have hgoes := goes_of_turns_eq hsplit
  rw [hregistration] at hgoes
  exact ⟨registration, hregistration, hgoes.visits⟩

end Sender

end ToastRelay
