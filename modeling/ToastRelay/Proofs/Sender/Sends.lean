import ToastRelay.Sender

/-!
# Where toasts go

A notification makes two kinds of requests: one for a token and those that carry the toast. The
former carries the form of the credentials. The latter go to channels of registrations and nowhere
else, whatever targets are named.
-/

namespace ToastRelay
set_option autoImplicit false

/-- Every request that an action sends is of a kind. -/
def Sends {α : Type} (P : Outgoing → Prop) (act : Act α) : Prop :=
  ∀ s : Surroundings, ∃ sent, (act s).2.received = s.received ++ sent ∧ ∀ o ∈ sent, P o

/-- A request that the service makes with credentials for registrations. -/
inductive ServiceRequest (credentials : Option Credentials) (rs : Registrations) :
    Outgoing → Prop where
  | token {c : Credentials} (h : credentials = some c) (uri : Web.Uri) :
    ServiceRequest credentials rs
      ⟨uri, "application/x-www-form-urlencoded", none, none, TokenSource.form c⟩
  | toast {e : String × Registration} {uri : Web.Uri} (he : e ∈ rs.entries)
    (huri : Web.Uri.ofText e.2.channel = .ok uri) (authorization document : String) :
    ServiceRequest credentials rs
      ⟨uri, "text/xml", some authorization, some "wns/toast", document⟩

/-- A request that carries a toast goes to the channel of a registration. -/
def ToChannelOf (rs : Registrations) (o : Outgoing) : Prop :=
  o.notificationType = some "wns/toast" →
    ∃ e ∈ rs.entries, Web.Uri.ofText e.2.channel = .ok o.uri

section Actions
variable {α β : Type} {P : Outgoing → Prop} {act : Act α}

theorem sends_pure (P : Outgoing → Prop) (a : α) : Sends P (pure a : Act α) :=
  fun s => ⟨[], (List.append_nil s.received).symm, fun _ h => absurd h List.not_mem_nil⟩

theorem Sends.bind (h : Sends P act) {f : α → Act β} (hf : ∀ a, Sends P (f a)) :
    Sends P (act >>= f) := by
  intro s
  obtain ⟨sent, hsent, hP⟩ := h s
  obtain ⟨sent', hsent', hP'⟩ := hf (act s).1 (act s).2
  refine ⟨sent ++ sent', ?_, ?_⟩
  · change (f (act s).1 (act s).2).2.received = _
    rw [hsent', hsent, List.append_assoc]
  · intro o ho
    rcases List.mem_append.mp ho with ho | ho
    · exact hP o ho
    · exact hP' o ho

theorem Sends.mono (h : Sends P act) {Q : Outgoing → Prop} (hPQ : ∀ o, P o → Q o) :
    Sends Q act := by
  intro s
  obtain ⟨sent, hsent, hP⟩ := h s
  exact ⟨sent, hsent, fun o ho => hPQ o (hP o ho)⟩

theorem sends_now (P : Outgoing → Prop) : Sends P Surroundings.now :=
  fun s => ⟨[], (List.append_nil s.received).symm, fun _ h => absurd h List.not_mem_nil⟩

theorem sends_record (P : Outgoing → Prop) (level : LogLevel) (source : LogSource) (text : String) :
    Sends P (Surroundings.record level source text) :=
  fun s => ⟨[], (List.append_nil s.received).symm, fun _ h => absurd h List.not_mem_nil⟩

theorem sends_request {request : Outgoing} (h : P request) :
    Sends P (Surroundings.send request) := by
  intro s
  unfold Surroundings.send
  dsimp only
  split
  · exact ⟨[], (List.append_nil s.received).symm, by simp⟩
  · split
    · exact ⟨[], (List.append_nil s.received).symm, by simp⟩
    · exact ⟨[request], rfl, by simpa using h⟩

end Actions

theorem toChannelOf_of_serviceRequest {credentials : Option Credentials} {rs : Registrations}
    {o : Outgoing} (h : ServiceRequest credentials rs o) : ToChannelOf rs o := by
  intro htoast
  cases h with
  | token h uri => cases htoast
  | toast he huri authorization document => exact ⟨_, he, huri⟩

section Token
variable (rs : Registrations) (source : TokenSource)

theorem sends_token_request : Sends (ServiceRequest source.credentials rs) source.request := by
  unfold TokenSource.request
  split
  · exact sends_pure _ _
  · next c hc =>
    split
    · exact sends_pure _ _
    · next uri _ =>
      exact (sends_request (.token hc uri)).bind fun response => sends_pure _ _

theorem sends_renew : Sends (ServiceRequest source.credentials rs) source.renew := by
  apply (sends_token_request rs source).bind
  intro result
  cases result with
  | error f => exact sends_pure _ _
  | ok grant =>
    refine (sends_record _ _ _ _).bind fun _ => (sends_now _).bind fun now => ?_
    split
    · exact sends_pure _ _
    · exact sends_pure _ _

theorem sends_token : Sends (ServiceRequest source.credentials rs) source.token := by
  apply (sends_now _).bind
  intro now
  split
  · exact sends_pure _ _
  · exact sends_renew rs source

end Token

namespace Sender

variable {rs : Registrations} {credentials : Option Credentials}

theorem sends_post {e : String × Registration} (he : e ∈ rs.entries)
    (authorization document : String) :
    Sends (ServiceRequest credentials rs) (post e.2.channel authorization document) := by
  unfold post
  cases hrequest : requestFor e.2.channel authorization document with
  | error f => exact sends_pure _ _
  | ok request =>
    have hservice : ServiceRequest credentials rs request := by
      rw [requestFor] at hrequest
      cases huri : Web.Uri.ofText e.2.channel with
      | error f => rw [huri] at hrequest; cases hrequest
      | ok uri =>
        rw [huri] at hrequest
        dsimp only at hrequest
        split at hrequest
        · cases hrequest
          exact .toast he huri authorization document
        · cases hrequest
    refine (sends_record _ _ _ _).bind fun _ => (sends_request hservice).bind fun response => ?_
    exact sends_pure _ _

theorem sends_deliver {channel? : Option String}
    (h : ∀ channel, channel? = some channel → ∃ e ∈ rs.entries, e.2.channel = channel)
    (authorization document target : String) :
    Sends (ServiceRequest credentials rs) (deliver authorization document target channel?) := by
  cases channel? with
  | none => exact (sends_record _ _ _ _).bind fun _ => sends_pure _ _
  | some channel =>
    obtain ⟨e, he, rfl⟩ := h channel rfl
    apply (sends_post he authorization document).bind
    intro result
    cases result with
    | ok u => exact sends_pure _ _
    | error f => exact (sends_record _ _ _ _).bind fun _ => sends_pure _ _

theorem sends_deliverAll {targets : List (String × Option String)}
    (h : ∀ t ∈ targets, ∀ channel, t.2 = some channel → ∃ e ∈ rs.entries, e.2.channel = channel)
    (authorization document : String) :
    Sends (ServiceRequest credentials rs) (deliverAll authorization document targets) := by
  induction targets with
  | nil => exact sends_pure _ _
  | cons t targets ih =>
    obtain ⟨ht, htargets⟩ := List.forall_mem_cons.mp h
    obtain ⟨target, channel?⟩ := t
    apply (sends_deliver ht authorization document target).bind
    intro delivered
    exact (ih htargets).bind fun report => sends_pure _ _

theorem mem_of_mem_channelsFor {targets : List String} {t : String × Option String}
    (ht : t ∈ rs.channelsFor targets) {channel : String} (hchannel : t.2 = some channel) :
    ∃ e ∈ rs.entries, e.2.channel = channel := by
  rw [Registrations.channelsFor] at ht
  split at ht
  · obtain ⟨e, he, rfl⟩ := List.mem_map.mp ht
    exact ⟨e, he, Option.some.inj hchannel⟩
  · obtain ⟨target, _, rfl⟩ := List.mem_map.mp ht
    obtain ⟨registration, hget, rfl⟩ := Option.map_eq_some_iff.mp hchannel
    obtain ⟨e, he, rfl⟩ := Option.map_eq_some_iff.mp hget
    exact ⟨e, List.mem_of_find?_eq_some he, rfl⟩

theorem sends_notification (rs : Registrations) (notification : Notification)
    (source : TokenSource) :
    Sends (ServiceRequest source.credentials rs) (send rs notification source) := by
  apply (sends_token rs source).bind
  intro result
  obtain ⟨result, source'⟩ := result
  cases result with
  | error f => exact sends_pure _ _
  | ok token =>
    refine (sends_deliverAll ?_ _ _).bind fun report => sends_pure _ _
    exact fun t ht channel => mem_of_mem_channelsFor ht

theorem sends_toasts (rs : Registrations) (notification : Notification) (source : TokenSource) :
    Sends (ToChannelOf rs) (send rs notification source) :=
  (sends_notification rs notification source).mono fun _ => toChannelOf_of_serviceRequest

end Sender

end ToastRelay
