/-
This file models the server's signed tokens: issuing one and validating one.

A token is three parts joined by dots: a constant header, the encoded claims and a
signature of the two. The encoding of claims (JSON in unpadded base64url) and the
signature (HMAC-SHA-256 in the same alphabet) come from the standard library and are
parameters; what the proofs need of them, that a claim decodes to itself and that no
part contains a dot or begins or ends with white space, is named as a condition on the
manager and the claims at hand.
-/

import Mathlib.Data.List.TakeWhile

namespace SovaDesk.Auth

/-! ### Text -/

/-- The characters `strings.TrimSpace` removes. -/
def isSpace (c : Char) : Bool :=
  c.toNat ∈ [0x09, 0x0A, 0x0B, 0x0C, 0x0D, 0x20, 0x85, 0xA0, 0x1680, 0x2000, 0x2001, 0x2002, 0x2003,
    0x2004, 0x2005, 0x2006, 0x2007, 0x2008, 0x2009, 0x200A, 0x2028, 0x2029, 0x202F, 0x205F, 0x3000]

/-- `strings.TrimSpace`. -/
def trimSpace (text : String) : String :=
  String.ofList (((text.toList.dropWhile isSpace).reverse.dropWhile isSpace).reverse)

/-- `strings.SplitN`: at most the given number of parts, the last one unsplit. -/
def splitN (separator : Char) : Nat → List Char → List (List Char)
  | 0, _ => []
  | 1, text => [text]
  | parts + 2, text =>
    match text.dropWhile (· != separator) with
    | [] => [text]
    | _ :: rest => text.takeWhile (· != separator) :: splitN separator (parts + 1) rest

/-- Text that holds neither a dot nor white space, as every base64url text does. -/
def Plain (text : String) : Prop := ∀ c ∈ text.toList, c ≠ '.' ∧ isSpace c = false

instance (text : String) : Decidable (Plain text) :=
  List.decidableBAll (fun c => c ≠ '.' ∧ isSpace c = false) text.toList

theorem splitN_cons {separator : Char} {before rest : List Char} (parts : Nat)
    (clean : ∀ c ∈ before, c ≠ separator) :
    splitN separator (parts + 2) (before ++ separator :: rest) =
      before :: splitN separator (parts + 1) rest := by
  have passes : ∀ c ∈ before, (c != separator) = true := fun c member =>
    bne_iff_ne.mpr (clean c member)
  simp [splitN, List.dropWhile_append_of_pos passes, List.takeWhile_append_of_pos passes]

/-- A split with more than one part ends the first at a separator. -/
theorem exists_of_splitN_cons {separator : Char} {parts : Nat} {text first : List Char}
    {others : List (List Char)} (split : splitN separator (parts + 2) text = first :: others)
    (more : others ≠ []) :
    ∃ rest, text = first ++ separator :: rest ∧ (∀ c ∈ first, c ≠ separator) ∧
      splitN separator (parts + 1) rest = others := by
  rw [splitN] at split
  cases remaining : text.dropWhile (· != separator) with
  | nil =>
    rw [remaining] at split
    cases split
    exact absurd rfl more
  | cons stop rest =>
    rw [remaining] at split
    obtain ⟨rfl, continued⟩ := List.cons.inj split
    have stops : stop = separator := by
      have present : text.dropWhile (· != separator) ≠ [] :=
        remaining ▸ List.cons_ne_nil stop rest
      have failed := List.head_dropWhile_not (· != separator) present
      simpa [remaining] using failed
    refine ⟨rest, ?_, fun c member => ?_, continued⟩
    · have parts := List.takeWhile_append_dropWhile (p := (· != separator)) (l := text)
      rw [remaining, stops] at parts
      exact parts.symm
    · have passed := List.mem_takeWhile_imp (p := (· != separator)) member
      exact bne_iff_ne.mp passed

/-- Trimming leaves text that neither begins nor ends with white space alone. -/
theorem trimSpace_decompose (text : String) : ∃ leading trailing : List Char,
    text.toList = leading ++ (trimSpace text).toList ++ trailing ∧
      (∀ c ∈ leading, isSpace c = true) ∧ ∀ c ∈ trailing, isSpace c = true := by
  refine ⟨text.toList.takeWhile isSpace,
    ((text.toList.dropWhile isSpace).reverse.takeWhile isSpace).reverse, ?_, ?_, ?_⟩
  · have trimmed : (trimSpace text).toList =
        ((text.toList.dropWhile isSpace).reverse.dropWhile isSpace).reverse :=
      String.toList_ofList
    rw [trimmed, List.append_assoc, ← List.reverse_append, List.takeWhile_append_dropWhile,
      List.reverse_reverse, List.takeWhile_append_dropWhile]
  · intro c member
    exact List.mem_takeWhile_imp member
  · intro c member
    exact List.mem_takeWhile_imp (List.mem_reverse.mp member)

/-! ### Claims and tokens -/

/-- The token's payload: who, in which role, in which organization (empty for server-level
accounts), from when, until when, and the token's own id. -/
structure Claims where
  sub : String
  role : String
  orgID : String
  iat : Int
  exp : Int
  jti : String
  deriving DecidableEq

inductive TokenError
  | invalidToken
  | unreadable
  | tokenExpired
  deriving DecidableEq

/-- The token manager: its token lifetime in seconds, the encoded header, the encoding of the
claims with its partial inverse, and the signature under the manager's secret. -/
structure JWTManager where
  expiry : Int
  header : String
  encode : Claims → String
  decode : String → Option Claims
  sign : String → String

namespace JWTManager

/-- What `encoding/json` and base64url promise for these claims, and HMAC for every text. -/
structure Faithful (m : JWTManager) (claims : Claims) : Prop where
  decode_encode : m.decode (m.encode claims) = some claims
  header_plain : Plain m.header
  encode_plain : Plain (m.encode claims)
  sign_plain : ∀ data, Plain (m.sign data)

def signed (m : JWTManager) (claims : Claims) : String :=
  m.header ++ "." ++ m.encode claims ++ "." ++ m.sign (m.header ++ "." ++ m.encode claims)

/-- `GenerateOrgToken` at a moment, with the random id it draws. -/
def orgClaims (now : Int) (jti subject role orgID : String) (ttl : Int) : Claims :=
  { sub := subject, role, orgID, iat := now, exp := now + ttl, jti }

def generateOrgToken (m : JWTManager) (now : Int) (jti subject role orgID : String) (ttl : Int) :
    String :=
  m.signed (orgClaims now jti subject role orgID ttl)

/-- `Validate` at a moment. -/
def validate (m : JWTManager) (now : Int) (token : String) : Except TokenError Claims :=
  match (splitN '.' 3 token.toList).map String.ofList with
  | [header, payload, signature] =>
    if signature ≠ m.sign (header ++ "." ++ payload) then .error .invalidToken
    else
      match m.decode payload with
      | none => .error .unreadable
      | some claims => if claims.exp < now then .error .tokenExpired else .ok claims
  | _ => .error .invalidToken

end JWTManager

/-! ### What validation accepts -/

section validate

variable {m : JWTManager} {claims : Claims}

theorem splitN_signed (leading trailing : List Char) (faithful : m.Faithful claims)
    (before : ∀ c ∈ leading, isSpace c = true) :
    (splitN '.' 3 (leading ++ (m.signed claims).toList ++ trailing)).map String.ofList =
      [String.ofList leading ++ m.header, m.encode claims,
        m.sign (m.header ++ "." ++ m.encode claims) ++ String.ofList trailing] := by
  have headClean : ∀ c ∈ leading ++ m.header.toList, c ≠ '.' := by
    intro c member
    rcases List.mem_append.mp member with space | header
    · rintro rfl
      exact absurd (before '.' space) (by decide)
    · exact (faithful.header_plain c header).1
  have payClean : ∀ c ∈ (m.encode claims).toList, c ≠ '.' := fun c member =>
    (faithful.encode_plain c member).1
  have shape : leading ++ (m.signed claims).toList ++ trailing =
      (leading ++ m.header.toList) ++ '.' :: ((m.encode claims).toList ++ '.' ::
        ((m.sign (m.header ++ "." ++ m.encode claims)).toList ++ trailing)) := by
    simp [JWTManager.signed, String.toList_append]
  rw [shape, splitN_cons 1 headClean, splitN_cons 0 payClean]
  simp [splitN, String.ofList_append]

/-- A token validates to the claims it was issued for until it expires. -/
theorem validate_signed (faithful : m.Faithful claims) {now : Int} (fresh : now ≤ claims.exp) :
    m.validate now (m.signed claims) = .ok claims := by
  have parts := splitN_signed [] [] faithful
    (fun _ member => nomatch member)
  simp only [List.nil_append, List.append_nil, String.ofList_nil, String.empty_append,
    String.append_empty] at parts
  simp [JWTManager.validate, parts, faithful.decode_encode, fresh]

/-- White space around a token does not change the claims it may validate to. -/
theorem validate_padded (faithful : m.Faithful claims) {leading trailing : List Char} {now : Int}
    {found : Claims} (before : ∀ c ∈ leading, isSpace c = true)
    (valid : m.validate now (String.ofList (leading ++ (m.signed claims).toList ++ trailing)) =
      .ok found) : found = claims := by
  rw [JWTManager.validate, String.toList_ofList, splitN_signed _ _ faithful before] at valid
  dsimp only at valid
  split at valid
  · cases valid
  · rw [faithful.decode_encode] at valid
    dsimp only at valid
    split at valid
    · cases valid
    · exact (Except.ok.inj valid).symm

/-- What validates is in three parts, with claims in the second. -/
theorem validate_ok {now : Int} {token : String} (valid : m.validate now token = .ok claims) :
    ∃ header payload signature,
      token.toList = header ++ '.' :: (payload ++ '.' :: signature) ∧
      (∀ c ∈ header, c ≠ '.') ∧ (∀ c ∈ payload, c ≠ '.') ∧
      m.decode (String.ofList payload) = some claims := by
  unfold JWTManager.validate at valid
  split at valid
  · next header payload signature parts =>
    split at valid
    · cases valid
    · split at valid
      · cases valid
      · next found decoded =>
        split at valid
        · cases valid
        · cases valid
          obtain ⟨head, rest, split, _, others⟩ := List.map_eq_cons_iff.mp parts
          obtain ⟨body, last, rfl, rfl, ended⟩ := List.map_eq_cons_iff.mp others
          obtain ⟨afterHead, spelled, headClean, splitRest⟩ :=
            exists_of_splitN_cons split (List.cons_ne_nil body last)
          have more : last ≠ [] := by
            rintro rfl
            cases ended
          obtain ⟨afterBody, spelledRest, bodyClean, _⟩ := exists_of_splitN_cons splitRest more
          exact ⟨head, body, afterBody, spelledRest ▸ spelled, headClean, bodyClean, decoded⟩
  · cases valid

/-- The parts of a text with two dots. -/
theorem splitN_three {header payload : List Char} (signature : List Char)
    (headClean : ∀ c ∈ header, c ≠ '.') (payClean : ∀ c ∈ payload, c ≠ '.') :
    splitN '.' 3 (header ++ '.' :: (payload ++ '.' :: signature)) =
      [header, payload, signature] := by
  rw [splitN_cons 1 headClean, splitN_cons 0 payClean]
  rfl

/-- White space around a text does not change the claims it may validate to. -/
theorem validate_trimSpace {now : Int} {text : String} {found : Claims}
    (valid : m.validate now text = .ok found)
    (trimmed : m.validate now (trimSpace text) = .ok claims) : found = claims := by
  obtain ⟨leading, trailing, padded, before, _⟩ := trimSpace_decompose text
  obtain ⟨header, payload, signature, spelled, headClean, payClean, decoded⟩ := validate_ok trimmed
  obtain ⟨header', payload', signature', spelled', headClean', payClean', decoded'⟩ :=
    validate_ok valid
  have paddedClean : ∀ c ∈ leading ++ header, c ≠ '.' := by
    intro c member
    rcases List.mem_append.mp member with space | inHeader
    · rintro rfl
      exact absurd (before '.' space) (by decide)
    · exact headClean c inHeader
  have whole : text.toList =
      (leading ++ header) ++ '.' :: (payload ++ '.' :: (signature ++ trailing)) := by
    rw [padded, spelled]
    simp only [List.append_assoc, List.cons_append]
  have parts := splitN_three (signature ++ trailing) paddedClean payClean
  rw [← whole, spelled', splitN_three signature' headClean' payClean'] at parts
  have same : payload' = payload := (List.cons.inj (List.cons.inj parts).2).1
  rw [same, decoded] at decoded'
  exact (Option.some.inj decoded').symm

end validate

end SovaDesk.Auth
