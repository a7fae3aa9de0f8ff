import ToastRelay.Error
import ToastRelay.Json.Record
import ToastRelay.Settings
import ToastRelay.Token.Lifetime
import ToastRelay.Web.Form

/-!
# Tokens

Notifications are sent with a token that is granted for the credentials of the service. A token is
kept and used again as long as its lifetime allows; only then is another one asked for, by one
request. A request that fails leaves the kept token as it is.
-/

namespace ToastRelay
set_option autoImplicit false

structure Grant where
  token : String
  /-- In seconds. -/
  lifetime : UInt64
  deriving DecidableEq, Repr

inductive TokenFault where
  | noCredentials
  | badUrl (f : Web.UriFault)
  | noResponse (f : ClientFault)
  | brokenResponse
  | refused (status : Nat) (body : Bytes)
  | notUnderstood (e : ReadError)
  | lifetimeOutOfRange (lifetime : UInt64)
  deriving DecidableEq, Repr

def TokenFault.text : TokenFault → String
  | .noCredentials => "client credentials not configured"
  | .badUrl f => "building request: " ++ f.text
  | .noResponse f => f.text
  | .brokenResponse => "reading response: " ++ brokenBody
  | .refused status body =>
    "token endpoint returned " ++ Web.statusText status ++ ": " ++ Text.decodeLenient body
  | .notUnderstood e => "invalid token response: " ++ e.text
  | .lifetimeOutOfRange lifetime =>
    "token lifetime " ++ toString lifetime.toNat ++ "s out of range"

namespace Grant

structure Draft where
  token : Option String
  lifetime : Option UInt64

def record : Record Draft Grant where
  name := "TokenResponse"
  fields := [
    ⟨"access_token", (·.token.isSome), false,
      fun d => do return { d with token := some (← Reader.string) }⟩,
    ⟨"expires_in", (·.lifetime.isSome), false,
      fun d => do return { d with lifetime := some (← Reader.natural) }⟩]
  blank := ⟨none, none⟩
  make := fun d =>
    match d.token, d.lifetime with
    | none, _ => .error (.missingField "access_token")
    | _, none => .error (.missingField "expires_in")
    | some token, some lifetime => .ok ⟨token, lifetime⟩

def ofBytes (body : Bytes) : Except ReadError Grant :=
  Reader.whole record.read (Text.pieces body)

end Grant

structure KeptToken where
  token : String
  expiry : Instant
  deriving DecidableEq, Repr

/-- Where tokens come from, and the one that is kept. -/
structure TokenSource where
  url : String
  credentials : Option Credentials
  kept : Option KeptToken
  deriving DecidableEq, Repr

namespace TokenSource

def ofSettings (settings : Settings) : TokenSource := ⟨settings.tokenUrl, settings.credentials, none⟩

def scope : String := "notify.windows.com"

def form (c : Credentials) : String :=
  Web.Form.encode [("grant_type", "client_credentials"), ("client_id", c.clientId),
    ("client_secret", c.clientSecret), ("scope", scope)]

def grantOf : Except ClientFault Response → Except TokenFault Grant
  | .error f => .error (.noResponse f)
  | .ok ⟨_, none⟩ => .error .brokenResponse
  | .ok ⟨status, some body⟩ =>
    if Web.isSuccess status then
      match Grant.ofBytes body with
      | .error e => .error (.notUnderstood e)
      | .ok grant => .ok grant
    else .error (.refused status body)

def request (source : TokenSource) : Act (Except TokenFault Grant) :=
  match source.credentials with
  | none => pure (.error .noCredentials)
  | some credentials =>
    match Web.Uri.ofText source.url with
    | .error f => pure (.error (.badUrl f))
    | .ok uri => do
      let response ← Surroundings.send
        ⟨uri, "application/x-www-form-urlencoded", none, none, form credentials⟩
      return grantOf response

def usable? (source : TokenSource) (now : Instant) : Option String :=
  (source.kept.filter fun k => Token.isUsable k.expiry now).map (·.token)

def renew (source : TokenSource) : Act (Except TokenFault String × TokenSource) := do
  match ← source.request with
  | .error f => return (.error f, source)
  | .ok grant =>
    Surroundings.record .debug .sender
      ("refreshed WNS access token, valid for " ++ toString grant.lifetime.toNat ++ "s")
    match Token.expiry? (← Surroundings.now) grant.lifetime with
    | none => return (.error (.lifetimeOutOfRange grant.lifetime), source)
    | some expiry => return (.ok grant.token, { source with kept := some ⟨grant.token, expiry⟩ })

/-- A token, and the source with the token that it keeps from now on. -/
def token (source : TokenSource) : Act (Except TokenFault String × TokenSource) := do
  match source.usable? (← Surroundings.now) with
  | some token => return (.ok token, source)
  | none => source.renew

end TokenSource

def authorization (token : String) : String := "Bearer " ++ token

end ToastRelay
