/-!
Failures that the AWS client raises by itself, before a response has arrived.
-/

namespace CloudIdentity

inductive LocalFault where
  | unspecified
  | connectTimeout
  | readTimeout
  | connectionClosed
  | endpointConnection
  | proxyConnection
  | ssl
  | httpClient
  | noCredentials
  | partialCredentials
  | credentialRetrieval
  | noAuthToken
  | tokenRetrieval
  | unauthorizedSession
  | noRegion
  | invalidRegion
  | parameterValidation
  | pagination
  | notPageable
  deriving DecidableEq, Repr

/-- A piece of a text with places for particulars. -/
inductive Piece where
  | text (s : String)
  | particular (name : String)
  deriving DecidableEq, Repr

namespace LocalFault

/-- The text of a fault, with places for what it tells by name. -/
def template : LocalFault → List Piece
  | unspecified => [.text "An unspecified error occurred"]
  | connectTimeout =>
    [.text "Connect timeout on endpoint URL: \"", .particular "endpoint_url", .text "\""]
  | readTimeout =>
    [.text "Read timeout on endpoint URL: \"", .particular "endpoint_url", .text "\""]
  | connectionClosed =>
    [.text "Connection was closed before we received a valid response from endpoint URL: \"",
      .particular "endpoint_url", .text "\"."]
  | endpointConnection =>
    [.text "Could not connect to the endpoint URL: \"", .particular "endpoint_url", .text "\""]
  | proxyConnection =>
    [.text "Failed to connect to proxy URL: \"", .particular "proxy_url", .text "\""]
  | ssl =>
    [.text "SSL validation failed for ", .particular "endpoint_url", .text " ",
      .particular "error"]
  | httpClient =>
    [.text "An HTTP Client raised an unhandled exception: ", .particular "error"]
  | noCredentials => [.text "Unable to locate credentials"]
  | partialCredentials =>
    [.text "Partial credentials found in ", .particular "provider", .text ", missing: ",
      .particular "cred_var"]
  | credentialRetrieval =>
    [.text "Error when retrieving credentials from ", .particular "provider", .text ": ",
      .particular "error_msg"]
  | noAuthToken => [.text "Unable to locate authorization token"]
  | tokenRetrieval =>
    [.text "Error when retrieving token from ", .particular "provider", .text ": ",
      .particular "error_msg"]
  | unauthorizedSession =>
    [.text ("The SSO session associated with this profile has expired or is otherwise invalid. To "
      ++ "refresh this SSO session run aws sso login with the corresponding profile.")]
  | noRegion => [.text "You must specify a region."]
  | invalidRegion =>
    [.text "Provided region_name '", .particular "region_name",
      .text "' doesn't match a supported format."]
  | parameterValidation => [.text "Parameter validation failed:\n", .particular "report"]
  | pagination => [.text "Error during pagination: ", .particular "message"]
  | notPageable => [.text "Operation cannot be paginated: ", .particular "operation_name"]

end LocalFault

end CloudIdentity
