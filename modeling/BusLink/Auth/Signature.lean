import BusLink.Hash.Hmac
import BusLink.Number.Numeral
import BusLink.Text.Base64
import BusLink.Text.Blank
import BusLink.Text.Cut
import BusLink.Text.Percent

set_option autoImplicit false

namespace BusLink.Auth

structure AccessToken where
  token : String
  expiresOn : Int
deriving DecidableEq, Repr

namespace Signature

/-- The seconds for which a fresh token is valid if nothing else is said. -/
def defaultLifetime : Int := 3600

def signedText (audience : String) (expiresOn : Int) : String :=
  String.ofList (Text.Percent.encodeForm audience ++ '\n' :: Numeral.integer expiresOn)

def code (audience key : String) (expiresOn : Int) : String :=
  String.ofList
    (Text.Base64.encode (Hash.hmac (Text.bytes key) (Text.bytes (signedText audience expiresOn))))

/-- The token for an audience, signed with the key of a policy. -/
def sign (audience policy key : String) (expiresOn : Int) : String :=
  String.ofList
    ("SharedAccessSignature sr=".toList ++ Text.Percent.encodeForm audience ++
      "&sig=".toList ++ Text.Percent.encode (code audience key expiresOn) ++
      "&se=".toList ++ Numeral.integer expiresOn ++
      "&skn=".toList ++ Text.Percent.encodeForm policy)

/-- A token that is valid from now on for a lifetime. -/
def issue (audience policy key : String) (now lifetime : Int) : AccessToken :=
  ⟨sign audience policy key (now + lifetime), now + lifetime⟩

/-- The expiry that the first `se=` item of a signature names. Items end at an ampersand or a
space. -/
def expiry? (signature : String) : Option Int :=
  let items := Text.pieces (fun character => character = '&' || character = ' ') signature.toList
  match items.find? ("se=".toList.isPrefixOf ·) with
  | none => none
  | some item => (Numeral.readInt64 (item.drop 3)).toOption

end Signature
end BusLink.Auth
