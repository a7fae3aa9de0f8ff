/-!
# Toasts

The document that makes a device show a notification: two lines of text, a picture if one is given,
and a logo. All text of the caller is escaped, so that it cannot become markup.
-/

namespace ToastRelay
set_option autoImplicit false

structure ToastExtras where
  /-- What the application is told when the toast is clicked. -/
  launch : Option String
  hero : Option String
  logo : Option String
  deriving DecidableEq, Repr, Inhabited

namespace Toast

def defaultTitle : String := "Home Assistant"

def defaultLogo : String :=
  "https://raw.githubusercontent.com/home-assistant/home-assistant-iOS/master/icons/release_1024.png"

def escapedChar (c : Char) : List Char :=
  if c = '&' then ['&', 'a', 'm', 'p', ';']
  else if c = '<' then ['&', 'l', 't', ';']
  else if c = '>' then ['&', 'g', 't', ';']
  else if c = '"' then ['&', 'q', 'u', 'o', 't', ';']
  else if c = '\'' then ['&', 'a', 'p', 'o', 's', ';']
  else [c]

def escape (s : String) : String := String.ofList (s.toList.flatMap escapedChar)

/-- A text that is given and not empty. -/
def nonempty (s : Option String) : Option String := s.filter (· ≠ "")

def launchAttribute (launch : String) : String := " launch=\"" ++ escape launch ++ "\""

def textElement (s : String) : String := "<text>" ++ escape s ++ "</text>"

def heroElement (hero : String) : String :=
  "<image src=\"" ++ escape hero ++ "\" placement=\"hero\" />"

def logoElement (logo : String) : String :=
  "<image src=\"" ++ escape logo ++ "\" placement=\"appLogoOverride\" hint-crop=\"circle\" />"

def document (title message : String) (extras : Option ToastExtras) : String :=
  "<?xml version=\"1.0\" encoding=\"utf-8\"?><toast" ++
    ((extras.bind fun e => nonempty e.launch).map launchAttribute).getD "" ++
    "><visual><binding template=\"ToastGeneric\">" ++
    textElement title ++ textElement message ++
    ((extras.bind fun e => nonempty e.hero).map heroElement).getD "" ++
    logoElement ((extras.bind fun e => e.logo).getD defaultLogo) ++
    "</binding></visual></toast>"

end Toast

end ToastRelay
