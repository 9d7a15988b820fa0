/-
This file settles when the organization of a token reaches the scope checks.

A request is authenticated by one reader of its header and gets its organization from
another. The first takes the prefix in any case and trims what follows; the second wants
the prefix as it is written in the documentation and validates the rest as it stands. The
two never disagree about the claims, since white space leaves the part that holds them
alone: the organization is the token's, or it is lost. It is kept exactly if the token has
none to lose or the header is spelled for the second reader.
-/

import SovaDesk.Api.OrgScope

namespace SovaDesk.Api

open SovaDesk.Auth

/-! ### The property -/

/-- A request is accepted on the strength of a token with these claims. -/
structure AcceptedBy (server : Server) (now : Int) (request : Request) (m : JWTManager)
    (claims : Claims) : Prop where
  manager : server.jwtManager = some m
  bearer : ∃ text, bearerText request.authorization = some text ∧
    isOpaqueClientToken (trimSpace text) = false ∧
    m.validate now (trimSpace text) = .ok claims
  active : claims.role ≠ role2FAPending

/-- The header is the exact prefix and a text that validates with the white space it has. -/
def SpelledExactly (m : JWTManager) (now : Int) (authorization : String) : Prop :=
  ∃ text, authorization = "Bearer " ++ text ∧ (m.validate now text).toOption.isSome = true

/-! ### Two readings of one header -/

section readers

variable {server : Server} {now : Int} {request : Request} {m : JWTManager} {claims : Claims}

theorem spelledExactly_iff (authorization : String) :
    SpelledExactly m now authorization ↔ KeepsScope m now authorization := by
  constructor
  · rintro ⟨text, spelled, validates⟩
    cases valid : m.validate now text with
    | error refusal =>
      rw [valid] at validates
      cases validates
    | ok found => exact ⟨text, found, spelled, valid⟩
  · rintro ⟨text, found, spelled, valid⟩
    exact ⟨text, spelled, by rw [valid]; rfl⟩

/-- The second reader finds the claims of the first where it finds any. -/
theorem extractOrgID_of_spelledExactly (accepted : AcceptedBy server now request m claims)
    (exact' : SpelledExactly m now request.authorization) :
    extractOrgIDFromRequest server now request = claims.orgID := by
  obtain ⟨text, bearer, _, valid⟩ := accepted.bearer
  obtain ⟨rest, found, spelled, validRest⟩ := (spelledExactly_iff _).mp exact'
  obtain ⟨long, textEq⟩ := bearerText_some bearer
  obtain ⟨exactPrefix, exactRest⟩ := drop_of_prefix spelled
  have sameText : text = rest := textEq.trans exactRest
  rw [sameText] at valid
  have sameClaims : found = claims := validate_trimSpace validRest valid
  simp [extractOrgIDFromRequest, accepted.manager, Nat.not_le.mpr long, exactPrefix, exactRest,
    validRest, sameClaims]

/-- The organization of the token a request is accepted by is the one its scope is checked against,
exactly if the token has none or the header is spelled exactly. -/
theorem extractOrgID_eq_iff (server : Server) (now : Int) (request : Request) (m : JWTManager)
    (claims : Claims) (accepted : AcceptedBy server now request m claims) :
    extractOrgIDFromRequest server now request = claims.orgID ↔
      claims.orgID = "" ∨ SpelledExactly m now request.authorization := by
  by_cases spelled : SpelledExactly m now request.authorization
  · exact iff_of_true (extractOrgID_of_spelledExactly accepted spelled) (.inr spelled)
  · have lost := extractOrgID_of_not_keepsScope accepted.manager
      (mt (spelledExactly_iff request.authorization).mpr spelled)
    rw [lost, or_iff_left spelled, eq_comm]

end readers

/-! ### Two spellings -/

/-- The scheme in lower case: the user is authenticated, without the organization of the token. -/
def lowerCaseRequest : Request where
  authorization := "bearer hs256.claims.mac"
  apiKey := ""

theorem lowerCase_losesScope :
    ∃ m claims, AcceptedBy (sampleServer "operator") 10 lowerCaseRequest m claims ∧
      claims.orgID = "acme" ∧
      extractOrgIDFromRequest (sampleServer "operator") 10 lowerCaseRequest = "" :=
  ⟨_, _, ⟨rfl, ⟨"hs256.claims.mac", by decide, by decide, rfl⟩, by decide⟩, rfl, by decide⟩

theorem exactSpelling_keepsScope :
    extractOrgIDFromRequest (sampleServer "operator") 10 sampleRequest = "acme" :=
  (extractOrgID_eq_iff (sampleServer "operator") 10 sampleRequest _ _
    ⟨rfl, ⟨"hs256.claims.mac", by decide, by decide, rfl⟩, by decide⟩).mpr
      (.inr ⟨"hs256.claims.mac", by decide, rfl⟩)

end SovaDesk.Api
