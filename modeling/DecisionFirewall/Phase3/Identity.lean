import DecisionFirewall.Phase3.Attestation

/-!
# Trusted Principals

`phase3/identity.py`: an opaque credential is resolved to the principal that the
integration boundary registered for its digest, and the resolution is signed, so that a
later stage can check it without the credential.

- §1 resolutions
- §2 the resolver
-/

namespace DecisionFirewall.Phase3

/-! ## §1 Resolutions -/

/-- `ResolvedPrincipal`. -/
structure ResolvedPrincipal where
  resolutionId : String
  resolverInstanceId : String
  credentialSha256 : String
  principal : AuthenticatedPrincipal
  signature : String
  deriving DecidableEq, Repr

namespace ResolvedPrincipal

def unsignedDict (r : ResolvedPrincipal) : Dict :=
  [("resolution_id", .str r.resolutionId),
    ("resolver_instance_id", .str r.resolverInstanceId),
    ("credential_sha256", .str r.credentialSha256),
    ("principal", .obj r.principal.toDict)]

def toDict (r : ResolvedPrincipal) : Dict :=
  r.unsignedDict ++ [("signature", .str r.signature)]

end ResolvedPrincipal

/-! ## §2 The resolver -/

/-- What the constructor requires of the principal of a record. -/
structure AuthenticatedPrincipal.Registered (p : AuthenticatedPrincipal) : Prop where
  authenticated : p.authenticated = true
  names : p.id ≠ "" ∧ p.type ≠ "" ∧ p.identitySource ≠ ""
  entries : (∀ r ∈ p.roles, r ≠ "") ∧ ∀ a ∈ p.authority, a ≠ ""

/-- `TrustedPrincipalResolver`, by the digests of its credentials. -/
structure TrustedPrincipalResolver where
  records : List (String × AuthenticatedPrincipal)
  signingKey : Bytes
  instanceId : String
  nonempty : records ≠ []
  registered : ∀ r ∈ records, r.2.Registered
  digests : (records.map Prod.fst).Nodup
  ids : (records.map fun r => r.2.id).Nodup

namespace TrustedPrincipalResolver

variable (lib : Primitives) (resolver : TrustedPrincipalResolver)

/-- `_sign(value)`. -/
def sign (value : Dict) : String := lib.hmacSha256 resolver.signingKey (canonicalJson (.obj value))

/-- The resolution of a registered principal. -/
def resolution (resolutionId credentialSha256 : String) (principal : AuthenticatedPrincipal) :
    ResolvedPrincipal :=
  let unsigned : ResolvedPrincipal :=
    ⟨resolutionId, resolver.instanceId, credentialSha256, principal, ""⟩
  { unsigned with signature := resolver.sign lib unsigned.unsignedDict }

/-- `resolve(credential)`; an error is the reason code it raises. -/
def resolve (sha256 : Bytes → String) (resolutionId : String) (credential : Bytes) :
    Except String ResolvedPrincipal :=
  if credential.length < 32 then .error "INVOCATION_CREDENTIAL_INVALID"
  else match resolver.records.lookup (sha256 credential) with
    | none => .error "INVOCATION_CREDENTIAL_REJECTED"
    | some principal => .ok (resolver.resolution lib resolutionId (sha256 credential) principal)

/-- `verify_resolution(value)`; `none` is an exception. -/
def verifyResolution (value : ResolvedPrincipal) : Option AuthenticatedPrincipal :=
  if value.resolverInstanceId = resolver.instanceId ∧
      resolver.sign lib value.unsignedDict = value.signature then some value.principal
  else none

theorem verifyResolution_resolution (resolutionId credentialSha256 : String)
    (principal : AuthenticatedPrincipal) :
    resolver.verifyResolution lib (resolver.resolution lib resolutionId credentialSha256 principal) =
      some principal :=
  if_pos ⟨rfl, rfl⟩

/-- A resolution that the resolver made is accepted, with the principal it names. -/
theorem verifyResolution_of_resolve {lib : Primitives} {resolver : TrustedPrincipalResolver}
    {sha256 : Bytes → String} {resolutionId : String} {credential : Bytes}
    {value : ResolvedPrincipal}
    (h : resolver.resolve lib sha256 resolutionId credential = .ok value) :
    resolver.verifyResolution lib value = some value.principal := by
  unfold resolve at h
  by_cases hlength : credential.length < 32
  · rw [if_pos hlength] at h
    cases h
  · rw [if_neg hlength] at h
    cases hrecord : resolver.records.lookup (sha256 credential) with
    | none =>
      rw [hrecord] at h
      cases h
    | some principal =>
      rw [hrecord] at h
      cases h
      exact resolver.verifyResolution_resolution lib _ _ _

end TrustedPrincipalResolver

end DecisionFirewall.Phase3
