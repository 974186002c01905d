import CloudflareShard.Async.Only
import CloudflareShard.Contracts.Manifest

/-!
# The tenants of a catalog

A tenant has the hash of its token, and for a while after a rotation the hash of the token before.

* `TenantAuth`, `TenantStore`                    the row of a tenant, the table and what was answered;
* `checkTenantAuth`                              does a caller's token belong to the tenant it names?
* `handleRegisterTenant`, `handleRevokeTenant`   the handlers that write the row;
* `tenants`                                      the three of them as an object.
-/

namespace Catalog
open Async Contracts

structure TenantAuth where
  tokenHash : Hash
  revokedAt : Option Nat
  previousTokenHash : Option Hash
  previousTokenExpiresAt : Option Nat
  deriving DecidableEq

/-- a token and the tenant it was handed out to -/
structure Credential where
  tenantId : String
  token : String
  deriving DecidableEq

/-- a call of `checkTenantAuth` that let a token through; `revoked` says that the token was handed out
before a revocation that had been answered when the call began -/
structure Admission where
  credential : Credential
  revoked : Bool
  deriving DecidableEq

/-- `issued` has the tokens that were handed out, and `revoked` those that had been when a revocation
of their tenant was answered -/
structure TenantStore where
  tenantAuth : String → Option TenantAuth
  now : Nat
  issued : List Credential
  revoked : List Credential
  admissions : List Admission

inductive Ask where
  /-- a random token and its digest; `existing` is the row as it was read before -/
  | newToken (tenantId : String) (existing : Option TenantAuth)
  | sha256Hex (token : String)

def Ask.Answer : Ask → Type
  | newToken _ _ => String
  | sha256Hex _ => Unit

inductive Body where
  | failure (code message fix : String)
  | token (tenantId token : String)
  | revoked (tenantId : String)

structure Response where
  status : Nat
  body : Body

def json (body : Body) (status : Nat := 200) : Response := { status, body }

def missingTenantId : Response :=
  json (.failure "MISSING_TENANT_ID" "Missing tenantId." "Provide a tenantId in the request body.") 400

/-- the handlers throw nothing -/
abbrev Cat := Prog TenantStore Ask Ask.Answer Empty

def gets {α : Type} (f : TenantStore → α) : Cat α := .step id fun s => .pure (f s)

variable (sha256Hex : String → Hash) (adminToken : Option String)

/-! ## authentication -/

def bearerToken (authorization : Option String) : Option String :=
  authorization.bind fun header =>
    if header.startsWith "Bearer " then
      let token := (header.drop 7).toString
      if token = "" then none else some token
    else none

/-- does the digest match the row, or the token before it in its grace period? -/
def matchesToken (row : TenantAuth) (tokenHash : Hash) (now : Nat) : Bool :=
  tokenHash == row.tokenHash
    || (row.previousTokenExpiresAt.any (now < ·) && row.previousTokenHash == some tokenHash)

/-- `none` lets the caller through -/
def checkTenantAuth (tenantId : String) (token : Option String) : Cat (Option Response) := do
  match token with
  | none =>
    return some (json (.failure "TENANT_TOKEN_MISSING" "Missing tenant bearer token."
      "Include 'authorization: Bearer <token>' from /register-tenant.") 401)
  | some token =>
    if adminToken.any fun admin => admin ≠ "" ∧ token = admin then return none
    else
      match ← gets (·.tenantAuth tenantId) with
      | none =>
        return some (json (.failure "TENANT_NOT_REGISTERED"
          ("Tenant " ++ tenantId ++ " is not registered.") "Call /register-tenant first.") 401)
      | some row =>
        if row.revokedAt.isSome then
          return some (json (.failure "TENANT_TOKEN_REVOKED"
            ("Tenant " ++ tenantId ++ "'s token has been revoked.")
            "Call /register-tenant with rotate: true to get a new token.") 401)
        else
          .call (.sha256Hex token) fun _ => do
            let now ← gets (·.now)
            if matchesToken row (sha256Hex token) now then return none
            else
              return some (json (.failure "TENANT_TOKEN_INVALID" "Invalid tenant token."
                "Check the token, or re-register via /register-tenant.") 401)

/-- a call of `checkTenantAuth`, recorded when it lets its token through -/
def authenticate (tenantId : String) (authorization : Option String) : Cat (Option Response) := do
  let token := bearerToken authorization
  let credential : Credential := { tenantId, token := token.getD "" }
  let revoked ← gets fun s => s.revoked.contains credential
  match ← checkTenantAuth sha256Hex adminToken tenantId token with
  | some response => return some response
  | none =>
    .modify fun s => { s with admissions := s.admissions ++ [{ credential, revoked }] }
    return none

/-! ## tokens -/

def tenantTokenRotationGraceMs : Nat := 5 * 60000

/-- the row after a token was handed out: a token that was not revoked when the row was read stays
good for a while -/
def withToken (existing : Option TenantAuth) (tokenHash : Hash) (now : Nat) : TenantAuth :=
  match existing with
  | some row =>
    if row.revokedAt.isNone then
      { tokenHash, revokedAt := none, previousTokenHash := some row.tokenHash
        previousTokenExpiresAt := some (now + tenantTokenRotationGraceMs) }
    else
      { tokenHash, revokedAt := none, previousTokenHash := none, previousTokenExpiresAt := none }
  | none => { tokenHash, revokedAt := none, previousTokenHash := none, previousTokenExpiresAt := none }

def recordToken (tenantId : String) (existing : Option TenantAuth) (token : String)
    (s : TenantStore) : TenantStore :=
  { s with
    tenantAuth := Function.update s.tenantAuth tenantId
      (some (withToken existing (sha256Hex token) s.now))
    issued := s.issued ++ [{ tenantId, token }] }

def handleRegisterTenant (tenantId : Option String) (rotate : Bool) : Cat Response := do
  .pause
  match tenantId with
  | none | some "" => return missingTenantId
  | some tenantId =>
    let existing ← gets (·.tenantAuth tenantId)
    if existing.isSome && !rotate then
      return json (.failure "TENANT_ALREADY_REGISTERED"
        ("Tenant " ++ tenantId ++ " is already registered.")
        "Pass rotate: true to issue a new token for this tenant.") 409
    else
      .call (.newToken tenantId existing) fun token => do
        .modify (recordToken sha256Hex tenantId existing token)
        return json (.token tenantId token)

def recordRevocation (tenantId : String) (s : TenantStore) : TenantStore :=
  { s with
    tenantAuth := Function.update s.tenantAuth tenantId
      ((s.tenantAuth tenantId).map fun row => { row with revokedAt := some s.now })
    revoked := s.revoked ++ s.issued.filter (·.tenantId == tenantId) }

def handleRevokeTenant (tenantId : Option String) : Cat Response := do
  .pause
  match tenantId with
  | none | some "" => return missingTenantId
  | some tenantId =>
    match ← gets (·.tenantAuth tenantId) with
    | none =>
      return json (.failure "TENANT_NOT_FOUND" ("Tenant " ++ tenantId ++ " is not registered.")
        "Call /register-tenant first.") 404
    | some _ =>
      .modify (recordRevocation tenantId)
      return json (.revoked tenantId)

/-! ## the object -/

inductive TenantRequest where
  | registerTenant (tenantId : Option String) (rotate : Bool)
  | revokeTenant (tenantId : Option String)
  | authenticate (tenantId : String) (authorization : Option String)

/-- the events from outside set the clock -/
def tenants : System TenantStore Ask Ask.Answer Empty (Option Response) TenantRequest Nat where
  handler
    | .registerTenant tenantId rotate => do
      return some (← handleRegisterTenant sha256Hex tenantId rotate)
    | .revokeTenant tenantId => do return some (← handleRevokeTenant tenantId)
    | .authenticate tenantId authorization => authenticate sha256Hex adminToken tenantId authorization
  answers _ _ := true
  event now s := { s with now }
  restart s := s

end Catalog
