import ToastRelay.Proofs.Text.Utf8
import ToastRelay.Settings

/-!
# Settings and the environment

A variable of the environment is set to bytes, and counts as missing if these are no text. The
variables of the credentials decide the credentials and nothing else: whether there are settings,
and what else they hold, is up to the other variables.
-/

namespace ToastRelay
set_option autoImplicit false

def Environment.ofBytes (raw : String → Option Bytes) : Environment :=
  fun name => (raw name).bind Text.decode?

/-- Whether a variable gives nothing: it is unset, empty, or set to bytes that are no text. -/
def Environment.Lacks (raw : String → Option Bytes) (name : String) : Prop :=
  raw name = none ∨ raw name = some [] ∨
    ∃ bytes, raw name = some bytes ∧ Text.decode? bytes = none

namespace Environment

variable {raw : String → Option Bytes} {name : String}

theorem lacks_iff :
    Lacks raw name ↔ (ofBytes raw name).filter (· ≠ "") = none := by
  rw [Lacks, ofBytes]
  cases hbytes : raw name with
  | none => simp
  | some bytes =>
    cases htext : Text.decode? bytes with
    | none => simp [htext]
    | some text =>
      have hempty : bytes = [] ↔ text = "" := by
        rw [← Text.decode?_eq_empty_iff, htext, Option.some.injEq]
      simp [htext, hempty, Option.filter]

end Environment

namespace Settings

variable {environment other : Environment} {settings : Settings}

theorem ofEnvironment_congr
    (h : ∀ name, name ≠ "WNS_CLIENT_ID" → name ≠ "WNS_CLIENT_SECRET" →
      other name = environment name) :
    ofEnvironment other = (ofEnvironment environment).map fun settings => { settings with
      clientId := (other "WNS_CLIENT_ID").filter (· ≠ "")
      clientSecret := (other "WNS_CLIENT_SECRET").filter (· ≠ "") } := by
  have hport := h "PORT" (by decide) (by decide)
  have hurl := h "WNS_TOKEN_URL" (by decide) (by decide)
  have hfile := h "WNS_REGISTRATIONS_FILE" (by decide) (by decide)
  rw [ofEnvironment, ofEnvironment, hport, hurl, hfile]
  cases environment "PORT" with
  | none => rfl
  | some text =>
    dsimp only
    cases portOf text.toList <;> rfl

theorem credentials_of_ofEnvironment (h : ofEnvironment environment = .ok settings) :
    settings.credentials =
      ((environment "WNS_CLIENT_ID").filter (· ≠ "")).bind fun id =>
        ((environment "WNS_CLIENT_SECRET").filter (· ≠ "")).map fun secret => ⟨id, secret⟩ := by
  have hsame := @ofEnvironment_congr environment environment fun _ _ _ => rfl
  rw [h] at hsame
  have hsettings := Except.ok.inj hsame
  rw [hsettings, credentials]
  dsimp only
  cases (environment "WNS_CLIENT_ID").filter (· ≠ "") with
  | none => rfl
  | some id => cases (environment "WNS_CLIENT_SECRET").filter (· ≠ "") <;> rfl

end Settings

end ToastRelay
