import ForgeErp.Api.Admin
import ForgeErp.Desktop.SyncManager

/-!
This module contains the authentication in front of the protected routes. Decoding a token, with the
check of its signature, is left to `jsonwebtoken`.
-/

namespace ForgeErp

structure JwtClaims where
  sub : Uuid
  tenantId : TenantId
  roles : List Role
  issuedAt : DateTime
  expiresAt : DateTime

inductive TokenValidationError where
  | missingToken
  | invalidFormat
  | invalidToken (msg : String)
  | expired
  | notYetValid
  | invalidTimeWindow
  deriving DecidableEq, Repr

def validateClaims (claims : JwtClaims) (now : DateTime) : Except TokenValidationError Unit :=
  if claims.expiresAt.nanos ≤ claims.issuedAt.nanos then
    .error .invalidTimeWindow
  else if now.nanos < claims.issuedAt.nanos then
    .error .notYetValid
  else if now.nanos ≥ claims.expiresAt.nanos then
    .error .expired
  else
    .ok ()

-- `decode` is `jsonwebtoken::decode` with the secret of the validator.
structure Hs256JwtValidator where
  decode : String → Except String JwtClaims

def Hs256JwtValidator.validate (self : Hs256JwtValidator) (token : String) (now : DateTime)
    : Except TokenValidationError JwtClaims :=
  if trimIsEmpty token then
    .error .missingToken
  else
    match self.decode token with
    | .error e => .error (.invalidToken e)
    | .ok claims =>
      match validateClaims claims now with
      | .error e => .error e
      | .ok () => .ok claims

namespace AuthMiddleware

-- `str::strip_prefix("Bearer ")`
def stripBearer (header : String) : Option String :=
  if "Bearer ".toList.isPrefixOf header.toList then
    some (.ofList (header.toList.drop 7))
  else
    none

-- `none` is the status 401.
def extractBearer (authorization : Option String) : Option String :=
  match authorization with
  | none => none
  | some header =>
    match headerToStr header with
    | none => none
    | some header =>
      match stripBearer header with
      | none => none
      | some rest =>
        let token := trim rest
        if token.toList = [] then none else some token

def authenticate (jwt : Hs256JwtValidator) (authorization : Option String) (now : DateTime)
    : Option JwtClaims :=
  match extractBearer authorization with
  | none => none
  | some token => (jwt.validate token now).toOption

end AuthMiddleware

def JwtClaims.tenantContext (claims : JwtClaims) : TenantContext :=
  ⟨claims.tenantId⟩

def JwtClaims.principalContext (claims : JwtClaims) : PrincipalContext :=
  ⟨claims.sub, claims.roles⟩

end ForgeErp
