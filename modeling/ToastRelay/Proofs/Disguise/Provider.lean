import Mathlib.Data.List.Forall2
import ToastRelay.Sender

/-!
# Disguises

Two runs are compared that differ in what nobody but the provider should see: in the secret of the
credentials, or in the tokens that the provider grants. A disguise says which credentials and which
tokens may stand for each other. Two replies are related if they are the same or grant such tokens,
and two providers if they have related replies for the same targets. They stay related while they
receive requests to the same targets.
-/

namespace ToastRelay
set_option autoImplicit false

/-- Which credentials and which tokens may stand for each other; of such tokens both can be written
into a header or neither. -/
structure Disguise where
  credentials : Credentials → Credentials → Prop
  token : String → String → Prop
  token_refl : ∀ t, token t t
  isHeaderValue_eq : ∀ {t t'}, token t t' → Sender.isHeaderValue t' = Sender.isHeaderValue t

/-- Both results are values, and related, or both are the same fault. -/
inductive Agree {ε α β : Type} (R : α → β → Prop) : Except ε α → Except ε β → Prop where
  | ok {a : α} {b : β} : R a b → Agree R (.ok a) (.ok b)
  | error (e : ε) : Agree R (.error e) (.error e)

namespace Disguise

def OnGrants (d : Disguise) (g g' : Grant) : Prop :=
  d.token g.token g'.token ∧ g'.lifetime = g.lifetime

inductive OnReplies (d : Disguise) : Reply → Reply → Prop where
  | same (r : Reply) : OnReplies d r r
  | grant {status : Nat} {body body' : Bytes} {g g' : Grant} (missing : Nat) :
      Web.isSuccess status = true → Grant.ofBytes body = .ok g → Grant.ofBytes body' = .ok g' →
      d.OnGrants g g' → OnReplies d (.answer status body missing) (.answer status body' missing)

/-- Responses that mean the same to a toast and related grants to a call for a token. -/
structure OnResponses (d : Disguise) (r r' : Except ClientFault Response) : Prop where
  outcome : Sender.outcomeOf r' = Sender.outcomeOf r
  grant : Agree d.OnGrants (TokenSource.grantOf r) (TokenSource.grantOf r')

/-- Replies by target: the targets are the same, and the replies to each are related. -/
def OnRules (d : Disguise) : List (String × List Reply) → List (String × List Reply) → Prop :=
  List.Forall₂ fun rule rule' => rule'.1 = rule.1 ∧ List.Forall₂ d.OnReplies rule.2 rule'.2

structure OnProviders (d : Disguise) (p p' : Provider) : Prop where
  rules : d.OnRules p.rules p'.rules
  refused : p'.refused = p.refused

variable {d : Disguise}

theorem onResponses_refl (r : Except ClientFault Response) : d.OnResponses r r := by
  refine ⟨rfl, ?_⟩
  cases TokenSource.grantOf r with
  | error f => exact .error f
  | ok g => exact .ok ⟨d.token_refl g.token, rfl⟩

theorem OnReplies.received {r r' : Reply} (h : d.OnReplies r r') :
    d.OnResponses r.received r'.received := by
  cases h with
  | same => exact onResponses_refl r.received
  | @grant status body body' g g' missing hsuccess hbody hbody' hg =>
    -- A successful status is final, so the bodies are looked at in the same way.
    have hbounds : 200 ≤ status ∧ status ≤ 299 := by
      simpa [Web.isSuccess] using hsuccess
    have hstatus : ¬ (status < 100 || 999 < status) := by simp; omega
    have hfinal : ¬ isInterim status := by simp [isInterim]; omega
    simp only [Reply.received, if_neg hstatus, if_neg hfinal]
    split
    · exact onResponses_refl _
    · split
      · refine ⟨rfl, ?_⟩
        simp only [TokenSource.grantOf, if_pos hsuccess, hbody, hbody']
        exact .ok hg
      · exact onResponses_refl _

theorem onRules_refl (rules : List (String × List Reply)) : d.OnRules rules rules := by
  refine List.forall₂_same.mpr fun rule _ => ⟨rfl, ?_⟩
  exact List.forall₂_same.mpr fun r _ => .same r

section Rules
variable {rules rules' : List (String × List Reply)}

theorem OnRules.lookup (h : d.OnRules rules rules') (target : String) :
    Option.Rel (List.Forall₂ d.OnReplies) (rules.lookup target) (rules'.lookup target) := by
  induction h with
  | nil => exact .none
  | @cons rule rule' rules rules' hrule _ ih =>
    obtain ⟨t, replies⟩ := rule
    obtain ⟨t', replies'⟩ := rule'
    obtain ⟨rfl, hreplies⟩ := hrule
    simp only [List.lookup_cons]
    split
    · exact .some hreplies
    · exact ih

theorem OnRules.any_eq (h : d.OnRules rules rules') (target : String) :
    (rules'.any fun rule => rule.1 = target) = rules.any fun rule => rule.1 = target := by
  induction h with
  | nil => rfl
  | cons hrule _ ih => rw [List.any_cons, List.any_cons, hrule.1, ih]

end Rules

theorem OnReplies.spend {replies replies' : List Reply}
    (h : List.Forall₂ d.OnReplies replies replies') :
    List.Forall₂ d.OnReplies (Provider.spend replies) (Provider.spend replies') := by
  cases h with
  | nil => exact .nil
  | cons hr hmore =>
    cases hmore with
    | nil => exact .cons hr .nil
    | cons hs hrest => exact .cons hs hrest

section Providers
variable {p p' : Provider}

theorem OnProviders.reply (h : d.OnProviders p p') (target : String) :
    d.OnReplies (p.reply target) (p'.reply target) := by
  have hlookup := h.rules.lookup target
  rw [Provider.reply, Provider.reply]
  generalize p.rules.lookup target = found, p'.rules.lookup target = found' at hlookup
  cases hlookup with
  | none => exact .same _
  | some hreplies =>
    cases hreplies with
    | nil => exact .same _
    | cons hr _ => exact hr

theorem OnProviders.after (h : d.OnProviders p p') (target : String) :
    d.OnProviders (p.after target) (p'.after target) := by
  refine ⟨?_, h.refused⟩
  rw [OnRules, Provider.after, Provider.after, List.forall₂_map_left_iff,
    List.forall₂_map_right_iff]
  refine h.rules.imp fun rule rule' hrule => ⟨hrule.1, ?_⟩
  dsimp only
  rw [hrule.1]
  split
  · exact OnReplies.spend hrule.2
  · exact hrule.2

theorem OnProviders.replace (h : d.OnProviders p p') {rules rules' : List (String × List Reply)}
    (hrules : d.OnRules rules rules') : d.OnProviders (p.replace rules) (p'.replace rules') := by
  refine ⟨?_, h.refused⟩
  refine List.rel_append hrules (List.rel_filter ?_ h.rules)
  intro rule rule' hrule
  dsimp only
  rw [hrule.1, hrules.any_eq]

end Providers

end Disguise

end ToastRelay
