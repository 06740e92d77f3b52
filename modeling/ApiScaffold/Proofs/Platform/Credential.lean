import ApiScaffold.Platform.Credential
import ApiScaffold.Proofs.Assoc

namespace ApiScaffold.Credential

variable {headers cookies : Fields} {name value token : String}

def ofRequest (adapterId : String) (headers cookies : Fields) : Option String :=
  extract (Profile.resolve adapterId).auth (Assoc.ofList headers) (Assoc.ofList cookies)

def isAuthorization (name : String) : Bool := Text.lower name = "authorization"

def authorizations (headers : Fields) : Fields :=
  (Assoc.ofList headers).filter fun header => isAuthorization header.1

def rename (name other : String) (header : String × String) : String × String :=
  if header.1 = name then (other, header.2) else header

lemma nonEmpty?_eq_some : nonEmpty? value = some token ↔ token ≠ "" ∧ value = token := by
  rw [nonEmpty?]
  split
  · rename_i hempty
    simp [hempty, eq_comm]
  · rename_i hne
    constructor
    · intro h
      obtain rfl := Option.some.inj h
      exact ⟨hne, rfl⟩
    · rintro ⟨-, rfl⟩
      rfl

lemma bearerToken?_eq_some : bearerToken? value = some token ↔
    token ≠ "" ∧ value = bearerPrefix ++ token := by
  rw [bearerToken?]
  split
  · rename_i hprefix
    obtain ⟨rest, hrest⟩ := List.isPrefixOf_iff_prefix.mp hprefix
    have hdrop : value.toList.drop bearerPrefix.length = rest := by
      rw [← hrest, ← String.length_toList, List.drop_left]
    have hvalue : value = bearerPrefix ++ String.ofList rest := by
      rw [← String.toList_inj, String.toList_append, String.toList_ofList, hrest]
    have hcancel : bearerPrefix ++ String.ofList rest = bearerPrefix ++ token ↔
        String.ofList rest = token := by
      rw [← String.toList_inj, String.toList_append, String.toList_append, List.append_cancel_left_eq,
        String.toList_inj]
    rw [hdrop, nonEmpty?_eq_some, hvalue, hcancel]
  · rename_i hprefix
    constructor
    · intro h
      cases h
    · rintro ⟨-, rfl⟩
      refine absurd (List.isPrefixOf_iff_prefix.mpr ?_) hprefix
      rw [String.toList_append]
      exact List.prefix_append _ _

lemma header?_eq (name : String) (headers : Fields) :
    header? name headers =
      ((headers.filter fun header => Text.lower header.1 = name).getLast?).map Prod.snd := by
  rw [header?, Assoc.get?_ofList, List.filter_map, List.getLast?_map, Option.map_map]
  rfl

lemma ofRequest_session {adapterId : String} (h : adapterId ≠ "mobile") (headers cookies : Fields) :
    ofRequest adapterId headers cookies = (Assoc.get? "session" (Assoc.ofList cookies)).bind nonEmpty? := by
  rw [ofRequest, Profile.resolve_of_ne h]
  rfl

lemma ofRequest_bearer (headers cookies : Fields) :
    ofRequest "mobile" headers cookies =
      ((authorizations headers).getLast?.map Prod.snd).bind bearerToken? := by
  have hauth : (Profile.resolve "mobile").auth = .bearer := rfl
  rw [ofRequest, hauth, extract, header?_eq]
  rfl

lemma authorizations_eq (headers : Fields) :
    authorizations headers = Assoc.ofList (headers.filter fun header => isAuthorization header.1) :=
  Assoc.filter_ofList isAuthorization headers

lemma authorizations_of_forall_eq (h : ∀ header ∈ headers, isAuthorization header.1 → header.1 = name) :
    authorizations headers =
      ((headers.filter fun header => isAuthorization header.1).getLast?.map fun header =>
        (name, header.2)).toList := by
  rw [authorizations_eq]
  apply Assoc.ofList_of_forall_eq
  intro header hheader
  obtain ⟨hmem, hauth⟩ := List.mem_filter.mp hheader
  exact h header hmem hauth

lemma filter_rename {other : String} (hname : isAuthorization name) (hother : isAuthorization other)
    (headers : Fields) :
    ((headers.map (rename name other)).filter fun header => isAuthorization header.1) =
      (headers.filter fun header => isAuthorization header.1).map (rename name other) := by
  rw [List.filter_map]
  refine congrArg _ (List.filter_congr fun header _ => ?_)
  rw [Function.comp_apply, rename]
  split
  · rename_i heq
    rw [hother, heq, hname]
  · rfl

lemma ofRequest_rename {other : String} (hname : isAuthorization name) (hother : isAuthorization other)
    (h : ∀ header ∈ headers, isAuthorization header.1 → header.1 = name) (cookies : Fields) :
    ofRequest "mobile" (headers.map (rename name other)) cookies = ofRequest "mobile" headers cookies := by
  have hrenamed : ∀ header ∈ headers.map (rename name other), isAuthorization header.1 →
      header.1 = other := by
    intro header hheader hauth
    obtain ⟨old, hold, rfl⟩ := List.mem_map.mp hheader
    rw [rename] at hauth ⊢
    split at hauth
    · rw [if_pos (by assumption)]
    · rename_i hne
      exact absurd (h old hold hauth) hne
  rw [ofRequest_bearer, ofRequest_bearer, authorizations_of_forall_eq h, authorizations_of_forall_eq hrenamed,
    filter_rename hname hother, List.getLast?_map]
  cases (headers.filter fun header => isAuthorization header.1).getLast? with
  | none => rfl
  | some last =>
    have hvalue : (rename name other last).2 = last.2 := by
      rw [rename]
      split <;> rfl
    simp [hvalue]

lemma ofRequest_session_eq_some {adapterId : String} (h : adapterId ≠ "mobile") :
    ofRequest adapterId headers cookies = some token ↔
    token ≠ "" ∧ ("session", token) ∈ Assoc.ofList cookies := by
  rw [ofRequest_session h, Option.bind_eq_some_iff, Assoc.mem_ofList_iff]
  constructor
  · rintro ⟨value, hcookie, hvalue⟩
    obtain ⟨hne, rfl⟩ := nonEmpty?_eq_some.mp hvalue
    exact ⟨hne, hcookie⟩
  · rintro ⟨hne, hcookie⟩
    exact ⟨token, hcookie, nonEmpty?_eq_some.mpr ⟨hne, rfl⟩⟩

lemma ofRequest_bearer_eq_some : ofRequest "mobile" headers cookies = some token ↔
    token ≠ "" ∧ ∃ name, (authorizations headers).getLast? = some (name, "Bearer " ++ token) := by
  rw [ofRequest_bearer, Option.bind_eq_some_iff]
  constructor
  · rintro ⟨value, hlast, hvalue⟩
    obtain ⟨header, hheader, rfl⟩ := Option.map_eq_some_iff.mp hlast
    obtain ⟨hne, heq⟩ := bearerToken?_eq_some.mp hvalue
    refine ⟨hne, header.1, ?_⟩
    rw [hheader, ← Prod.eta header, heq]
    rfl
  · rintro ⟨hne, name, hlast⟩
    exact ⟨_, congrArg (Option.map Prod.snd) hlast, bearerToken?_eq_some.mpr ⟨hne, rfl⟩⟩

lemma ofRequest_ne_empty (adapterId : String) (headers cookies : Fields) :
    ofRequest adapterId headers cookies ≠ some "" := by
  by_cases hid : adapterId = "mobile"
  · rw [hid]
    exact fun h => (ofRequest_bearer_eq_some.mp h).1 rfl
  · exact fun h => ((ofRequest_session_eq_some hid).mp h).1 rfl

lemma ofRequest_bearer_congr {others : Fields} (otherCookies : Fields)
    (h : (others.filter fun header => isAuthorization header.1) = headers.filter fun header =>
      isAuthorization header.1) :
    ofRequest "mobile" others otherCookies = ofRequest "mobile" headers cookies := by
  rw [ofRequest_bearer, ofRequest_bearer, authorizations_eq, authorizations_eq, h]

/--
The credential with either profile. A session is the value of its cookie and nothing else counts; a
bearer's token is in the last authorization header, and only the authorization headers count, but
not how the name of a single one is spelled. An empty credential counts as none, and without one the
answer is the refusal.
-/
theorem credential_of_request (adapterId : String) (headers cookies : Fields) :
    (adapterId ≠ "mobile" →
      (∀ token, ofRequest adapterId headers cookies = some token ↔
        token ≠ "" ∧ ("session", token) ∈ Assoc.ofList cookies) ∧
      ∀ others, ofRequest adapterId others cookies = ofRequest adapterId headers cookies) ∧
    (adapterId = "mobile" →
      (∀ token, ofRequest adapterId headers cookies = some token ↔
        token ≠ "" ∧ ∃ name, (authorizations headers).getLast? = some (name, "Bearer " ++ token)) ∧
      (∀ others otherCookies,
        (others.filter fun header => isAuthorization header.1) =
          headers.filter (fun header => isAuthorization header.1) →
          ofRequest adapterId others otherCookies = ofRequest adapterId headers cookies) ∧
      ∀ name other, isAuthorization name → isAuthorization other →
        (∀ header ∈ headers, isAuthorization header.1 → header.1 = name) →
          ofRequest adapterId (headers.map (rename name other)) cookies =
            ofRequest adapterId headers cookies) ∧
    ofRequest adapterId headers cookies ≠ some "" ∧
    authenticate (Profile.resolve adapterId).auth (Assoc.ofList headers) (Assoc.ofList cookies) =
      match ofRequest adapterId headers cookies with
      | some _ => none
      | none => some [("code", "UNAUTHORIZED"), ("message", "Authentication required")] := by
  refine ⟨fun hid => ⟨fun token => ofRequest_session_eq_some hid, fun others => ?_⟩, ?_,
    ofRequest_ne_empty adapterId headers cookies, ?_⟩
  · rw [ofRequest_session hid, ofRequest_session hid]
  · rintro rfl
    exact ⟨fun token => ofRequest_bearer_eq_some,
      fun others otherCookies h => ofRequest_bearer_congr otherCookies h, fun name other hname hother h =>
      ofRequest_rename hname hother h cookies⟩
  · show (if (ofRequest adapterId headers cookies).isSome then none else some unauthorized) = _
    cases ofRequest adapterId headers cookies <;> rfl

theorem credential_of_repeated_headers :
    let headers :=
      [("Authorization", "Basic x"), ("AUTHORIZATION", "Bearer t-1"), ("Authorization", "Bearer t-2")]
    ofRequest "mobile" headers [("session", "s-1")] = some "t-1" ∧
    ofRequest "mobile" [("AUTHORIZATION", "Bearer t-3")] [] =
      ofRequest "mobile" [("Authorization", "Bearer t-3")] [] ∧
    ofRequest "web" headers [("session", ""), ("session", "s-1")] = some "s-1" := by
  intro headers
  obtain ⟨-, hmobile, -⟩ := credential_of_request "mobile" headers [("session", "s-1")]
  obtain ⟨-, hsingle, -⟩ := credential_of_request "mobile" [("Authorization", "Bearer t-3")] []
  obtain ⟨hweb, -⟩ := credential_of_request "web" headers [("session", ""), ("session", "s-1")]
  have hlast : (authorizations headers).getLast? = some ("AUTHORIZATION", "Bearer " ++ "t-1") := by
    decide +kernel
  have hname : ∀ header ∈ [("Authorization", "Bearer t-3")], isAuthorization header.1 →
      header.1 = "Authorization" := by
    simp
  have hcookie : ("session", "s-1") ∈ Assoc.ofList [("session", ""), ("session", "s-1")] := by decide
  exact ⟨((hmobile rfl).1 "t-1").mpr ⟨by decide, "AUTHORIZATION", hlast⟩,
    (hsingle rfl).2.2 "Authorization" "AUTHORIZATION" (by decide +kernel) (by decide +kernel) hname,
    ((hweb (by decide)).1 "s-1").mpr ⟨by decide, hcookie⟩⟩

end ApiScaffold.Credential
