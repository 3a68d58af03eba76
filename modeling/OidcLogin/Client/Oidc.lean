import OidcLogin.Authorization.Url
import OidcLogin.Identity.UserInfo
import OidcLogin.Token.Exchange

namespace OidcLogin

structure OidcClient where
  -- The address of a request with these scopes, this state and this redirect address.
  authorizationUrl : List Text → Text → Text → Except Failure Text
  -- The token for a code and the redirect address that it was given out for.
  exchangeCode : Text → Text → NetProgram (Except Failure TokenResponse)
  fetchUserInfo : Text → NetProgram (Except Failure Members)

def OidcClient.overHttp (config : ProviderConfig) (client : HttpClient) : OidcClient where
  authorizationUrl scopes state redirectUri :=
    Authorization.url config.authorizationEndpoint config.clientId scopes state redirectUri
  exchangeCode code redirectUri := TokenExchange.exchange config client (some code) (some redirectUri)
  fetchUserInfo accessToken := UserInfo.fetch config client accessToken

end OidcLogin
