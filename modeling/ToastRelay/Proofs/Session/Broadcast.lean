import ToastRelay.Proofs.Sender.Visits
import ToastRelay.Proofs.Session.Tokenless
import ToastRelay.Proofs.Text.Order

/-!
# Broadcasts

A notification that names nobody is meant for everyone. It goes through the registrations themselves
instead of looking targets up, but it comes to the same as if all keys were named in the order of
their bytes: each of them is visited once, at its own channel.
-/

namespace ToastRelay
set_option autoImplicit false

theorem Dictionary.keys_ascending {α : Type} (d : Dictionary α) :
    d.keys.Pairwise fun a b => Text.encode a < Text.encode b :=
  List.pairwise_map.mpr (d.ascending.imp Text.encode_lt_encode)

theorem Registrations.channelsFor_keys (rs : Registrations) :
    rs.channelsFor rs.keys = rs.channelsFor [] := by
  rw [channelsFor, channelsFor, if_pos List.isEmpty_nil]
  split
  · rfl
  · rw [Dictionary.keys, List.map_map]
    apply List.map_congr_left
    intro e he
    rw [Function.comp_apply, Dictionary.mem_entries_iff.mp he]
    rfl

namespace Sender

/-- A notification depends on its targets only through their channels. -/
theorem send_congr_targets {rs : Registrations} {n : Notification} (ts ts' : Option (List String))
    (h : rs.channelsFor (ts.getD []) = rs.channelsFor (ts'.getD [])) (source : TokenSource) :
    send rs { n with targets := ts } source = send rs { n with targets := ts' } source := by
  unfold send
  dsimp only [Notification.document]
  rw [h]

end Sender

/-- No targets, an empty list and the list of all keys mean the same: each key has one turn, in the
order of the bytes. -/
theorem broadcast_names_everyone (s : Session) (n : Notification) :
    let rs := s.service.registry.registrations
    let sendTo := fun targets => s.step (.send { n with targets := targets })
    let s' := (sendTo none).2
    sendTo (some []) = sendTo none ∧ sendTo (some rs.keys) = sendTo none ∧
    rs.keys.Pairwise (fun a b => Text.encode a < Text.encode b) ∧
    (∀ key, key ∈ rs.keys ↔ ∃ registration, rs.get? key = some registration) ∧
    ((∃ f, s.service.tokens.Fails s.surroundings.provider (s.surroundings.clock 1) f ∧
        (sendTo none).1 = .failed (.tokenFetch f.text)) ∨ ∃ asked told xs,
      (sendTo none).1 = .report (.ofTurns xs) ∧ xs.map (·.target) = rs.keys ∧
      (∀ x ∈ xs, ∃ registration, rs.get? x.target = some registration ∧
        x.Visits registration.channel) ∧
      s'.surroundings.received = asked ++ xs.filterMap (·.toast?) ∧
      (∀ o ∈ asked, o.notificationType = none) ∧
      s'.surroundings.log = told ++ xs.flatMap (·.records) ∧ ∀ r ∈ told, r.level = .debug) ∧
    ∀ target, Sender.complaint (.unknownTarget target) ∉ s'.surroundings.log := by
  intro rs sendTo s'
  have hsendTo : ∀ {targets}, rs.channelsFor (targets.getD []) = rs.channelsFor [] →
      sendTo targets = sendTo none := by
    intro targets h
    change s.step _ = s.step _
    rw [Session.step_send, Session.step_send, Sender.send_congr_targets targets none h]
  refine ⟨hsendTo rfl, hsendTo rs.channelsFor_keys, rs.keys_ascending,
    fun key => Dictionary.mem_keys_iff, ?_⟩
  have hquietly : ∀ {w : Surroundings}, w.Quiet →
      ∀ target, Sender.complaint (.unknownTarget target) ∉ w.log := fun hquiet target h => by
    cases hquiet.noComplaint _ h
  cases hcall : (s.service.tokens.token s.surroundings.forget).1.1 with
  | error f =>
    obtain ⟨w, hquiet, hstep⟩ := s.step_send_of_no_token { n with targets := none } hcall
    have hs' : s' = { s with surroundings := w } := congrArg Prod.snd hstep
    have hfails := (TokenSource.token_error_iff.mp hcall).2
    refine ⟨Or.inl ⟨f, hfails, congrArg Prod.fst hstep⟩, ?_⟩
    rw [hs']
    exact hquietly hquiet
  | ok token =>
    obtain ⟨tokens, w, hquiet, hstep⟩ := s.step_send_of_token { n with targets := none } hcall
    set xs := Sender.turns (authorization token) _ w.provider (rs.channelsFor []) with hxs
    have hs' : s' = { s with
        service := { s.service with tokens := tokens }, surroundings := w.passing xs } :=
      congrArg Prod.snd hstep
    have hkeys : xs.map (·.target) = rs.keys := by
      rw [hxs, Sender.map_target_turns, rs.map_fst_channelsFor, if_pos List.isEmpty_nil]
    have hvisits : ∀ x ∈ xs, ∃ registration, rs.get? x.target = some registration ∧
        x.Visits registration.channel := fun x => Sender.visits_of_mem_turns
    rw [hs']
    refine ⟨Or.inr ⟨w.received, w.log, xs, congrArg Prod.fst hstep, hkeys, hvisits, rfl,
      hquiet.noToast, rfl, hquiet.noComplaint⟩, fun target h => ?_⟩
    rcases List.mem_append.mp h with h | h
    · exact hquietly hquiet target h
    · obtain ⟨x, hx, h⟩ := List.mem_flatMap.mp h
      obtain ⟨registration, -, hvisit⟩ := hvisits x hx
      exact hvisit.not_unknown target h

/-- The bytes decide: an accented key stands behind all others, whatever identifiers the
registrations carry. -/
example :
    let settings : Settings :=
      ⟨some "id", some "secret", "https://login.example/token", "registrations.conf", 8000⟩
    let source : TokenSource := ⟨settings.tokenUrl, settings.credentials,
      some ⟨"tok", 600 * Token.second⟩⟩
    let rs : Registrations := Dictionary.ofList
      [("é", ⟨"a", "https://wns.example/1", none, none⟩),
        ("z", ⟨"z", "https://wns.example/1", none, none⟩)]
    let s : Session := ⟨settings, ⟨⟨rs, .memory ⟨rs, 0, .succeed⟩⟩, source⟩, source,
      ⟨⟨[("https://wns.example/1", [.answer 200 [] 0, .answer 410 [] 0])], []⟩,
        fun _ => 0, [], []⟩⟩
    (s.step (.send ⟨"hello", none, none, none⟩)).1 = .report ⟨["z"], ["é"]⟩ := by
  decide +kernel

end ToastRelay
