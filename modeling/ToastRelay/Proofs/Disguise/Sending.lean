import ToastRelay.Proofs.Disguise.Provider
import ToastRelay.Proofs.Session.Step

/-!
# Sending in disguise

Surroundings are related if their providers are, the clock and the log are the same, and the
requests received so far differ only in the credentials and tokens that stand for each other.
Related actions give related values in related surroundings and leave them related, which composes.
So it can be shown piece by piece that a call for a token gives related tokens, and that sending a
notification gives the same report.
-/

namespace ToastRelay
set_option autoImplicit false

def TokenSource.asking (uri : Web.Uri) (c : Credentials) : Outgoing :=
  ⟨uri, "application/x-www-form-urlencoded", none, none, form c⟩

def Sender.toast (uri : Web.Uri) (token document : String) : Outgoing :=
  ⟨uri, "text/xml", some (authorization token), some "wns/toast", document⟩

theorem Sender.isHeaderValue_authorization (token : String) :
    isHeaderValue (authorization token) = isHeaderValue token := by
  have hscheme : isHeaderValue "Bearer " = true := by decide
  rw [isHeaderValue] at hscheme
  rw [isHeaderValue, authorization, String.toList_append, List.all_append, hscheme, Bool.true_and,
    isHeaderValue]

namespace Disguise

inductive OnRequests (d : Disguise) : Outgoing → Outgoing → Prop where
  | same (o : Outgoing) : OnRequests d o o
  | asking (uri : Web.Uri) {c c' : Credentials} : d.credentials c c' →
      OnRequests d (TokenSource.asking uri c) (TokenSource.asking uri c')
  | toast (uri : Web.Uri) (document : String) {t t' : String} : d.token t t' →
      OnRequests d (Sender.toast uri t document) (Sender.toast uri t' document)

structure OnSurroundings (d : Disguise) (w w' : Surroundings) : Prop where
  provider : d.OnProviders w.provider w'.provider
  clock : w'.clock = w.clock
  received : List.Forall₂ d.OnRequests w.received w'.received
  log : w'.log = w.log

/-- Actions that give related values and related surroundings. -/
def OnActs (d : Disguise) {α β : Type} (R : α → β → Prop) (act : Act α) (act' : Act β) : Prop :=
  ∀ w w', d.OnSurroundings w w' →
    R (act w).1 (act' w').1 ∧ d.OnSurroundings (act w).2 (act' w').2

structure OnSources (d : Disguise) (source source' : TokenSource) : Prop where
  url : source'.url = source.url
  credentials : Option.Rel d.credentials source.credentials source'.credentials
  kept : Option.Rel (fun k k' => d.token k.token k'.token ∧ k'.expiry = k.expiry)
    source.kept source'.kept

variable {d : Disguise}

theorem OnRequests.uri {o o' : Outgoing} (h : d.OnRequests o o') : o'.uri = o.uri := by
  cases h <;> rfl

section Actions
variable {α β γ δ : Type} {R : α → β → Prop} {Q : γ → δ → Prop}

theorem onActs_pure {a : α} {b : β} (h : R a b) : d.OnActs R (pure a) (pure b) :=
  fun _ _ hw => ⟨h, hw⟩

theorem OnActs.bind {act : Act α} {act' : Act β} (h : d.OnActs R act act') {f : α → Act γ}
    {f' : β → Act δ} (hf : ∀ a b, R a b → d.OnActs Q (f a) (f' b)) :
    d.OnActs Q (act >>= f) (act' >>= f') := by
  intro w w' hw
  obtain ⟨hvalue, hafter⟩ := h w w' hw
  exact hf _ _ hvalue _ _ hafter

theorem onActs_now : d.OnActs Eq Surroundings.now Surroundings.now := by
  intro w w' hw
  refine ⟨?_, hw.provider, ?_, hw.received, hw.log⟩
  · rw [Surroundings.now, Surroundings.now, hw.clock]
  · rw [Surroundings.now, Surroundings.now, hw.clock]

theorem onActs_record (level : LogLevel) (source : LogSource) (text : String) :
    d.OnActs Eq (Surroundings.record level source text)
      (Surroundings.record level source text) := by
  intro w w' hw
  refine ⟨rfl, hw.provider, hw.clock, hw.received, ?_⟩
  rw [Surroundings.record, Surroundings.record, hw.log]

theorem onActs_send {o o' : Outgoing} (h : d.OnRequests o o') :
    d.OnActs d.OnResponses (Surroundings.send o) (Surroundings.send o') := by
  intro w w' hw
  simp only [Surroundings.send, h.uri, hw.provider.refused]
  split
  · exact ⟨onResponses_refl _, hw⟩
  · split
    · exact ⟨onResponses_refl _, hw⟩
    · refine ⟨(hw.provider.reply _).received, hw.provider.after _, hw.clock, ?_, hw.log⟩
      exact List.rel_append hw.received (.cons h .nil)

end Actions

section Token
variable {source source' : TokenSource}

theorem onActs_request (h : d.OnSources source source') :
    d.OnActs (Agree d.OnGrants) source.request source'.request := by
  have hcredentials := h.credentials
  rw [TokenSource.request, TokenSource.request, h.url]
  -- Both sources have credentials or neither has.
  generalize source.credentials = c?, source'.credentials = c?' at hcredentials
  cases hcredentials with
  | none => exact onActs_pure (.error _)
  | some hc =>
    dsimp only
    cases Web.Uri.ofText source.url with
    | error f => exact onActs_pure (.error _)
    | ok uri =>
      refine (onActs_send (.asking uri hc)).bind fun r r' hr => ?_
      exact onActs_pure hr.grant

theorem OnSources.usable? (h : d.OnSources source source') (now : Instant) :
    Option.Rel d.token (source.usable? now) (source'.usable? now) := by
  have hkept := h.kept
  rw [TokenSource.usable?, TokenSource.usable?]
  generalize source.kept = k?, source'.kept = k?' at hkept
  cases hkept with
  | none => exact .none
  | @some k k' hk =>
    simp only [Option.filter, hk.2]
    split
    · exact .some hk.1
    · exact .none

def OnTokens (d : Disguise) (p p' : Except TokenFault String × TokenSource) : Prop :=
  Agree d.token p.1 p'.1 ∧ d.OnSources p.2 p'.2

theorem onActs_renew (h : d.OnSources source source') :
    d.OnActs d.OnTokens source.renew source'.renew := by
  refine (onActs_request h).bind fun r r' hr => ?_
  cases hr with
  | error f => exact onActs_pure ⟨.error f, h⟩
  | @ok g g' hg =>
    obtain ⟨htoken, hlifetime⟩ := hg
    dsimp only
    rw [hlifetime]
    refine (onActs_record _ _ _).bind fun _ _ _ => onActs_now.bind ?_
    rintro now _ rfl
    cases Token.expiry? now g.lifetime with
    | none => exact onActs_pure ⟨.error _, h⟩
    | some expiry => exact onActs_pure ⟨.ok htoken, h.url, h.credentials, .some ⟨htoken, rfl⟩⟩

theorem onActs_token (h : d.OnSources source source') :
    d.OnActs d.OnTokens source.token source'.token := by
  refine onActs_now.bind ?_
  rintro now _ rfl
  have husable := h.usable? now
  generalize source.usable? now = t?, source'.usable? now = t?' at husable
  cases husable with
  | none => exact onActs_renew h
  | some ht => exact onActs_pure ⟨.ok ht, h⟩

end Token

section Toasts
variable {token token' : String}

theorem onActs_post (h : d.token token token') (channel document : String) :
    d.OnActs Eq (Sender.post channel (authorization token) document)
      (Sender.post channel (authorization token') document) := by
  have hheader : Sender.isHeaderValue (authorization token') =
      Sender.isHeaderValue (authorization token) := by
    rw [Sender.isHeaderValue_authorization, Sender.isHeaderValue_authorization]
    exact d.isHeaderValue_eq h
  rw [Sender.post, Sender.post, Sender.requestFor, Sender.requestFor, hheader]
  -- Only the request itself tells the tokens apart, and only if a header can hold them.
  cases Web.Uri.ofText channel with
  | error f => exact onActs_pure rfl
  | ok uri =>
    cases Sender.isHeaderValue (authorization token) with
    | false => exact onActs_pure rfl
    | true =>
      refine (onActs_record _ _ _).bind fun _ _ _ => ?_
      refine (onActs_send (.toast uri document h)).bind fun r r' hr => ?_
      exact onActs_pure hr.outcome.symm

theorem onActs_deliver (h : d.token token token') (document target : String)
    (channel? : Option String) :
    d.OnActs Eq (Sender.deliver (authorization token) document target channel?)
      (Sender.deliver (authorization token') document target channel?) := by
  cases channel? with
  | none => exact (onActs_record _ _ _).bind fun _ _ _ => onActs_pure rfl
  | some channel =>
    refine (onActs_post h channel document).bind ?_
    rintro result _ rfl
    cases result with
    | ok u => exact onActs_pure rfl
    | error f => exact (onActs_record _ _ _).bind fun _ _ _ => onActs_pure rfl

theorem onActs_deliverAll (h : d.token token token') (document : String)
    (targets : List (String × Option String)) :
    d.OnActs Eq (Sender.deliverAll (authorization token) document targets)
      (Sender.deliverAll (authorization token') document targets) := by
  induction targets with
  | nil => exact onActs_pure rfl
  | cons t targets ih =>
    obtain ⟨target, channel?⟩ := t
    refine (onActs_deliver h document target channel?).bind ?_
    rintro delivered _ rfl
    refine ih.bind ?_
    rintro report _ rfl
    exact onActs_pure rfl

end Toasts

theorem onActs_notification {source source' : TokenSource} (h : d.OnSources source source')
    (rs : Registrations) (notification : Notification) :
    d.OnActs (fun p p' => p'.1 = p.1 ∧ d.OnSources p.2 p'.2)
      (Sender.send rs notification source) (Sender.send rs notification source') := by
  refine (onActs_token h).bind ?_
  rintro ⟨result, source⟩ ⟨result', source'⟩ ⟨hresult, hsource⟩
  cases hresult with
  | error f => exact onActs_pure ⟨rfl, hsource⟩
  | ok ht =>
    refine (onActs_deliverAll ht _ _).bind ?_
    rintro report _ rfl
    exact onActs_pure ⟨rfl, hsource⟩

section Surroundings
variable {w w' : Surroundings}

theorem OnSurroundings.forget (h : d.OnSurroundings w w') :
    d.OnSurroundings w.forget w'.forget :=
  ⟨h.provider, h.clock, .nil, rfl⟩

theorem OnSurroundings.recordAll (h : d.OnSurroundings w w') (records : List LogRecord) :
    d.OnSurroundings (w.recordAll records) (w'.recordAll records) := by
  refine ⟨h.provider, h.clock, h.received, ?_⟩
  rw [Surroundings.recordAll, Surroundings.recordAll, h.log]

end Surroundings

end Disguise

end ToastRelay
