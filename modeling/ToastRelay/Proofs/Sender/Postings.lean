import ToastRelay.Proofs.Registry.Carriers
import ToastRelay.Proofs.Sender.Target
import ToastRelay.Proofs.Web.Target

/-!
# What becomes of each target

The targets of a notification are gone through one after another. At each of them the provider has
received the request for the token, if there was one, and the toasts for the targets before; nothing
else changes it. From this it follows which toasts it receives, which of them it confirms, and what
the report says.
-/

namespace ToastRelay
set_option autoImplicit false

namespace Provider

/-- A provider after it has received requests. -/
def afterAll (p : Provider) (requests : List Outgoing) : Provider :=
  requests.foldl (fun p o => p.after o.uri.text) p

theorem afterAll_append (p : Provider) (os os' : List Outgoing) :
    p.afterAll (os ++ os') = (p.afterAll os).afterAll os' :=
  List.foldl_append

/-- Whether there is a connection over which a request to a target can be received. -/
def connects (p : Provider) (uri : Web.Uri) : Bool :=
  uri.scheme.isSome && !uri.authority.isEmpty && !p.refused.contains (String.ofList uri.authority)

def confirms (p : Provider) (o : Outgoing) : Bool :=
  match (p.reply o.uri.text).received with
  | .ok response => Web.isSuccess response.status
  | .error _ => false

theorem confirms_iff {p : Provider} {o : Outgoing} :
    p.confirms o = true ↔ ∃ response, (p.reply o.uri.text).received = .ok response ∧
      200 ≤ response.status ∧ response.status ≤ 299 := by
  rw [confirms]
  cases (p.reply o.uri.text).received with
  | error f => simp
  | ok response => simp [Web.isSuccess]

end Provider

namespace Surroundings

def receiving (w : Surroundings) (requests : List Outgoing) : Surroundings :=
  { w with provider := w.provider.afterAll requests, received := w.received ++ requests }

theorem receiving_nil (w : Surroundings) : w.receiving [] = w := by
  rw [receiving, List.append_nil]
  rfl

theorem send_of_connects {o : Outgoing} {w : Surroundings}
    (h : w.provider.connects o.uri = true) :
    send o w = ((w.provider.reply o.uri.text).received, w.receiving [o]) := by
  simp only [Provider.connects, Bool.and_eq_true, Bool.not_eq_true', Option.isSome_iff_ne_none] at h
  obtain ⟨⟨hscheme, hauthority⟩, hrefused⟩ := h
  unfold send
  dsimp only
  rw [if_neg (by simp [hscheme, hauthority]), hrefused, if_neg Bool.false_ne_true]
  rfl

theorem send_of_not_connects {o : Outgoing} {w : Surroundings}
    (h : w.provider.connects o.uri = false) : ∃ f, send o w = (.error f, w) := by
  unfold send
  dsimp only
  split
  · exact ⟨_, rfl⟩
  · next hrelative =>
    split
    · exact ⟨_, rfl⟩
    · next hrefused =>
      -- Nothing else keeps a request from being received.
      simp_all [Provider.connects, Option.isSome_iff_ne_none]

end Surroundings

namespace TokenSource

theorem request_receiving (source : TokenSource) (w : Surroundings) :
    ∃ asked, (source.request w).2 = w.receiving asked ∧ asked.length ≤ 1 ∧
      ∀ o ∈ asked, o.notificationType = none := by
  have hnone : w = w.receiving [] := w.receiving_nil.symm
  rw [request]
  cases source.credentials with
  | none => exact ⟨[], hnone, Nat.zero_le 1, by simp⟩
  | some credentials =>
    cases Web.Uri.ofText source.url with
    | error f => exact ⟨[], hnone, Nat.zero_le 1, by simp⟩
    | ok uri =>
      let o : Outgoing := ⟨uri, "application/x-www-form-urlencoded", none, none, form credentials⟩
      simp only [Act.bind_apply]
      cases hconnects : w.provider.connects uri with
      | true =>
        rw [Surroundings.send_of_connects (o := o) hconnects]
        exact ⟨[o], rfl, Nat.le_refl 1, by simp [o]⟩
      | false =>
        obtain ⟨f, hsend⟩ := Surroundings.send_of_not_connects (o := o) hconnects
        rw [hsend]
        exact ⟨[], hnone, Nat.zero_le 1, by simp⟩

theorem renew_receiving (source : TokenSource) (w : Surroundings) :
    ∃ asked clock log, (source.renew w).2 = { w.receiving asked with clock := clock, log := log } ∧
      asked.length ≤ 1 ∧ ∀ o ∈ asked, o.notificationType = none := by
  obtain ⟨asked, hasked, hlength, hkind⟩ := source.request_receiving w
  refine ⟨asked, ?_⟩
  rw [renew, Act.bind_apply, hasked]
  cases (source.request w).1 with
  | error f => exact ⟨_, _, rfl, hlength, hkind⟩
  | ok grant =>
    simp only [Act.bind_apply]
    cases Token.expiry? _ grant.lifetime with
    | none => exact ⟨_, _, rfl, hlength, hkind⟩
    | some expiry => exact ⟨_, _, rfl, hlength, hkind⟩

/-- For a token the provider receives one request at most, which is no toast. -/
theorem token_receiving (source : TokenSource) (w : Surroundings) :
    ∃ asked clock log, (source.token w).2 = { w.receiving asked with clock := clock, log := log } ∧
      asked.length ≤ 1 ∧ ∀ o ∈ asked, o.notificationType = none := by
  rw [token, Act.bind_apply]
  cases source.usable? (Surroundings.now w).1 with
  | some t => exact ⟨[], _, _, by rw [w.receiving_nil]; rfl, Nat.zero_le 1, by simp⟩
  | none => exact source.renew_receiving (Surroundings.now w).2

end TokenSource

theorem Registrations.map_fst_channelsFor (rs : Registrations) (targets : List String) :
    (rs.channelsFor targets).map (·.1) = if targets.isEmpty then rs.keys else targets := by
  rw [channelsFor]
  split
  · rw [List.map_map]
    rfl
  · rw [List.map_map]
    exact List.map_id targets

theorem Registrations.snd_of_mem_channelsFor {rs : Registrations} {targets : List String}
    {t : String × Option String} (h : t ∈ rs.channelsFor targets) :
    t.2 = (rs.get? t.1).map (·.channel) := by
  rw [channelsFor] at h
  split at h
  · obtain ⟨e, he, rfl⟩ := List.mem_map.mp h
    rw [Dictionary.mem_entries_iff.mp he]
    rfl
  · obtain ⟨target, _, rfl⟩ := List.mem_map.mp h
    rfl

/-- What became of a target: the toast that the provider received for it, if it received one, and
whether it counts as delivered. -/
structure Posting where
  target : String
  toast? : Option Outgoing
  delivered : Bool

def SendReport.ofPostings (xs : List Posting) : SendReport :=
  ⟨(xs.filter (·.delivered)).map (·.target), (xs.filter (!·.delivered)).map (·.target)⟩

theorem SendReport.ofPostings_cons (x : Posting) (xs : List Posting) :
    ofPostings (x :: xs) = (ofPostings xs).add x.target x.delivered := by
  rw [ofPostings, add]
  cases h : x.delivered <;> simp [h, ofPostings]

theorem filterMap_cons_toList {α β : Type} (f : α → Option β) (x : α) (xs : List α) :
    (x :: xs).filterMap f = (f x).toList ++ xs.filterMap f := by
  cases h : f x <;> simp [h]

namespace Sender

variable {authorization document channel : String}

theorem requestFor_eq_ok {o : Outgoing} :
    requestFor channel authorization document = .ok o ↔
      ∃ uri, Web.Uri.ofText channel = .ok uri ∧ isHeaderValue authorization = true ∧
        o = toastTo uri authorization document := by
  rw [requestFor]
  cases Web.Uri.ofText channel with
  | error f => simp
  | ok uri =>
    dsimp only
    split
    · next hvalue => simp [hvalue, toastTo, eq_comm]
    · next hvalue => simp [hvalue]

/-- The toast for a channel, if the provider receives it. -/
def reaching? (p : Provider) (authorization document channel : String) : Option Outgoing :=
  match requestFor channel authorization document with
  | .error _ => none
  | .ok o => if p.connects o.uri then some o else none

theorem reaching?_eq_some {p : Provider} {o : Outgoing} :
    reaching? p authorization document channel = some o ↔
      ∃ uri, Web.Uri.absolute? channel = some uri ∧
        p.refused.contains (String.ofList uri.authority) = false ∧
        isHeaderValue authorization = true ∧ o = toastTo uri authorization document := by
  have hreaching : reaching? p authorization document channel = some o ↔
      requestFor channel authorization document = .ok o ∧ p.connects o.uri = true := by
    rw [reaching?]
    cases requestFor channel authorization document with
    | error f => simp
    | ok o' =>
      simp only [Option.ite_none_right_eq_some, Option.some.injEq, Except.ok.injEq]
      constructor
      · rintro ⟨hconnects, rfl⟩
        exact ⟨rfl, hconnects⟩
      · rintro ⟨rfl, hconnects⟩
        exact ⟨hconnects, rfl⟩
  rw [hreaching, requestFor_eq_ok]
  simp only [Provider.connects, Bool.and_eq_true, Bool.not_eq_true']
  constructor
  · rintro ⟨⟨uri, huri, hvalue, rfl⟩, ⟨hscheme, -⟩, hrefused⟩
    exact ⟨uri, Web.Uri.absolute?_eq_some.mpr ⟨huri, hscheme⟩, hrefused, hvalue, rfl⟩
  · rintro ⟨uri, habsolute, hrefused, hvalue, rfl⟩
    obtain ⟨huri, hscheme⟩ := Web.Uri.absolute?_eq_some.mp habsolute
    have hauthority : uri.authority ≠ [] := Web.Uri.authority_ne_nil habsolute
    exact ⟨⟨uri, huri, hvalue, rfl⟩, ⟨hscheme, by simpa [toastTo] using hauthority⟩, hrefused⟩

def posting (p : Provider) (authorization document target : String) (channel? : Option String) :
    Posting :=
  let toast? := channel?.bind (reaching? p authorization document)
  ⟨target, toast?, toast?.any p.confirms⟩

section Posting
variable {p : Provider} {target : String}

theorem toast?_posting_eq_some {registration? : Option Registration} {o : Outgoing} :
    (posting p authorization document target (registration?.map (·.channel))).toast? = some o ↔
      ∃ registration uri, registration? = some registration ∧
        Web.Uri.absolute? registration.channel = some uri ∧
        p.refused.contains (String.ofList uri.authority) = false ∧
        isHeaderValue authorization = true ∧ o = toastTo uri authorization document := by
  rw [posting, Option.bind_map, Option.bind_eq_some_iff]
  simp only [Function.comp_apply, reaching?_eq_some]
  constructor
  · rintro ⟨registration, hget, uri, h⟩
    exact ⟨registration, uri, hget, h⟩
  · rintro ⟨registration, uri, hget, h⟩
    exact ⟨registration, hget, uri, h⟩

theorem delivered_posting_iff {channel? : Option String} :
    (posting p authorization document target channel?).delivered = true ↔
      ∃ o response, (posting p authorization document target channel?).toast? = some o ∧
        (p.reply o.uri.text).received = .ok response ∧
        200 ≤ response.status ∧ response.status ≤ 299 := by
  rw [posting, Option.any_eq_true]
  simp only [Provider.confirms_iff]
  constructor
  · rintro ⟨o, ho, response, h⟩
    exact ⟨o, response, ho, h⟩
  · rintro ⟨o, response, ho, h⟩
    exact ⟨o, ho, response, h⟩

end Posting

theorem toBool_outcomeOf (p : Provider) (o : Outgoing) :
    (outcomeOf (p.reply o.uri.text).received).toBool = p.confirms o := by
  rw [Provider.confirms]
  cases (p.reply o.uri.text).received with
  | error f => rfl
  | ok response =>
    simp only [outcomeOf]
    cases Web.isSuccess response.status <;> rfl

theorem post_eq (authorization document channel : String) (w : Surroundings) :
    let toast? := reaching? w.provider authorization document channel
    ∃ result log, post channel authorization document w =
        (result, { w.receiving toast?.toList with log := log }) ∧
      result.toBool = toast?.any w.provider.confirms := by
  rw [post, reaching?]
  cases requestFor channel authorization document with
  | error f => exact ⟨_, _, by rw [Option.toList_none, w.receiving_nil]; rfl, rfl⟩
  | ok o =>
    simp only [Act.bind_apply]
    let w₁ : Surroundings :=
      (Surroundings.record .debug .sender ("posting toast to " ++ channel) w).2
    cases hconnects : w.provider.connects o.uri with
    | true =>
      have hsend := Surroundings.send_of_connects (w := w₁) hconnects
      rw [hsend]
      exact ⟨_, _, rfl, toBool_outcomeOf w.provider o⟩
    | false =>
      obtain ⟨f, hsend⟩ := Surroundings.send_of_not_connects (w := w₁) hconnects
      rw [hsend]
      exact ⟨_, _, by rw [if_neg Bool.false_ne_true, Option.toList_none, w.receiving_nil]; rfl, rfl⟩

/-- A toast reaches a channel that is an absolute target, as it stands, if the provider takes it. -/
theorem post_of_absolute {uri : Web.Uri} {w : Surroundings}
    (h : Web.Uri.absolute? channel = some uri) (hvalue : isHeaderValue authorization = true)
    (htakes : w.provider.Takes uri) (document : String) :
    ∃ w', post channel authorization document w = (.ok (), w') ∧
      w'.received = w.received ++ [toastTo uri authorization document] := by
  obtain ⟨hrefused, response, hreceived, hsuccess⟩ := htakes
  have hreaching : reaching? w.provider authorization document channel =
      some (toastTo uri authorization document) :=
    reaching?_eq_some.mpr ⟨uri, h, hrefused, hvalue, rfl⟩
  have hconfirms : w.provider.confirms (toastTo uri authorization document) = true := by
    rw [Provider.confirms, toastTo, hreceived]
    exact hsuccess
  obtain ⟨result, log, hpost, hresult⟩ := post_eq authorization document channel w
  rw [hreaching, Option.any_some, hconfirms] at hresult
  rw [hreaching] at hpost
  cases result with
  | ok u => exact ⟨_, hpost, rfl⟩
  | error f => cases hresult

theorem post_of_not_absolute (h : Web.Uri.absolute? channel = none) (document : String)
    (w : Surroundings) :
    ∃ f w', post channel authorization document w = (.error f, w') ∧ w'.received = w.received := by
  have hreaching : reaching? w.provider authorization document channel = none := by
    apply Option.eq_none_iff_forall_ne_some.mpr
    intro o ho
    obtain ⟨uri, habsolute, -⟩ := reaching?_eq_some.mp ho
    cases h.symm.trans habsolute
  obtain ⟨result, log, hpost, hresult⟩ := post_eq authorization document channel w
  rw [hreaching, Option.any_none] at hresult
  rw [hreaching] at hpost
  cases result with
  | ok u => cases hresult
  | error f => exact ⟨f, _, hpost, List.append_nil _⟩

theorem deliver_eq (authorization document target : String) (channel? : Option String)
    (w : Surroundings) :
    let x := posting w.provider authorization document target channel?
    ∃ log, deliver authorization document target channel? w =
      (x.delivered, { w.receiving x.toast?.toList with log := log }) := by
  rw [posting]
  cases channel? with
  | none =>
    refine ⟨(Surroundings.record .error .sender (RelayError.unknownTarget target).text w).2.log, ?_⟩
    rw [Option.bind_none, Option.toList_none, w.receiving_nil]
    rfl
  | some channel =>
    obtain ⟨result, log, hpost, hresult⟩ := post_eq authorization document channel w
    rw [deliver, Act.bind_apply, hpost, Option.bind_some, ← hresult]
    cases result with
    | ok u => exact ⟨log, rfl⟩
    | error f => exact ⟨_, rfl⟩

def postings (authorization document : String) :
    Provider → List (String × Option String) → List Posting
  | _, [] => []
  | p, (target, channel?) :: more =>
    let x := posting p authorization document target channel?
    x :: postings authorization document (p.afterAll x.toast?.toList) more

theorem map_target_postings (authorization document : String) (p : Provider)
    (targets : List (String × Option String)) :
    (postings authorization document p targets).map (·.target) = targets.map (·.1) := by
  induction targets generalizing p with
  | nil => rfl
  | cons t targets ih =>
    rw [postings, List.map_cons, List.map_cons, ih]
    rfl

theorem send_of_no_token (rs : Registrations) (n : Notification) {source source' : TokenSource}
    {w w₁ : Surroundings} {f : TokenFault} (h : source.token w = ((.error f, source'), w₁)) :
    send rs n source w = ((.error f, source'), w₁) := by
  rw [send, Act.bind_apply, h]
  rfl

end Sender

end ToastRelay
