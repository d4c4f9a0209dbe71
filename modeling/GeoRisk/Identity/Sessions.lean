import Mathlib
import GeoRisk.Identity.History

/-! The two halves of a session. A refresh token lives as long as its row is unrevoked, an access
    token as long as its user stays in the generation it was signed in. Neither half comes back:
    rows stay revoked and generations only grow, so a session that is dead once is refused by
    `RefreshAccessToken` and by `get_current_claims` for good. -/

namespace GeoRisk.Identity

variable {ports : Ports} {db db' : Db} {i : Issued}

/-! ### What is kept of an issued session -/

/-- The row of the refresh token. -/
def RefreshStored (ports : Ports) (db : Db) (i : Issued) : Prop :=
  ∃ t ∈ db.refreshTokens.rows, t.tokenHash = ports.hashToken i.refreshToken ∧ t.userId = i.userId

/-- The access token was signed for its user, in a generation the user has reached; in the user's own
    generation the user is active. -/
def AccessSigned (ports : Ports) (db : Db) (i : Issued) : Prop :=
  ∃ p u, i.accessToken = ports.encode p ∧ p.type = "access" ∧ p.sub = i.userId ∧
    p.iat = epochSeconds i.at' ∧ db.users.get i.userId = some u ∧ p.gen ≤ u.tokenGeneration ∧
    (u.tokenGeneration = p.gen → u.status = .active)

theorem TokensLater.row {tokens tokens' : Lib.Table RefreshToken.id} (h : TokensLater tokens tokens')
    {t : RefreshToken} (ht : t ∈ tokens.rows) : ∃ t' ∈ tokens'.rows, t'.tokenHash = t.tokenHash ∧
      t'.userId = t.userId ∧ (t.revokedAt ≠ none → t'.revokedAt ≠ none) :=
  Lib.Table.Kept.row h ht

theorem RefreshStored.later (h : RefreshStored ports db i) (hlater : Later db db') :
    RefreshStored ports db' i := by
  obtain ⟨t, ht, hhash, huser⟩ := h
  obtain ⟨t', ht', hhash', huser', -⟩ := hlater.tokens.row ht
  exact ⟨t', ht', hhash'.trans hhash, huser'.trans huser⟩

theorem AccessSigned.later (h : AccessSigned ports db i) (hlater : Later db db') :
    AccessSigned ports db' i := by
  obtain ⟨p, u, htoken, htype, hsub, hiat, hu, hgen, hactive⟩ := h
  obtain ⟨u', hu', hgen', hactive'⟩ := hlater.users _ _ hu
  refine ⟨p, u', htoken, htype, hsub, hiat, hu', hgen.trans hgen', fun heq => ?_⟩
  exact hactive' (by omega) (hactive (by omega))

/-! ### Issuing -/

/-- A token that a flush inserts is there afterwards, replaced and revoked as may be. -/
theorem flush_inserted (pre : List Write) {post : List Write} {token : RefreshToken}
    (hws : ∀ w ∈ pre ++ .insertToken token :: post, w.Lawful db.refreshTokens)
    (h : flush (pre ++ .insertToken token :: post) db = some db') :
    ∃ t ∈ db'.refreshTokens.rows, t.tokenHash = token.tokenHash ∧ t.userId = token.userId := by
  have htokens := flush_tokens h
  rw [List.foldlM_append] at htokens
  obtain ⟨tokens₁, h₁, htokens⟩ := Option.bind_eq_some_iff.mp htokens
  obtain ⟨tokens₂, h₂, htokens⟩ := Option.bind_eq_some_iff.mp htokens
  have hpre := foldlM_onTokens_later (fun w hw => hws w (List.mem_append_left _ hw)) h₁
  have hrest : ∀ w ∈ .insertToken token :: post, w.Lawful tokens₁ :=
    fun w hw => (hws w (List.mem_append_right _ hw)).later hpre
  have hinsert := onTokens_later (hrest _ (List.mem_cons_self ..)) h₂
  simp only [Write.onTokens] at h₂
  split at h₂
  · cases h₂
  · cases h₂
    have hlater := foldlM_onTokens_later
      (fun w hw => (hrest w (List.mem_cons_of_mem _ hw)).later hinsert) htokens
    obtain ⟨t, ht, hhash, huser, -⟩ := hlater.row (Lib.Table.mem_put_rows.mpr (Or.inl rfl))
    exact ⟨t, ht, hhash, huser⟩

/-- The session a command issues is kept. -/
theorem issuedBy_kept (ports : Ports) (command : Command) (now : Timestamp) (db : Db) {i : Issued}
    (hi : i ∈ issuedBy ports db now command (command.exec ports now db).2) :
    RefreshStored ports (command.exec ports now db).1 i ∧
      AccessSigned ports (command.exec ports now db).1 i := by
  have h := exec_cases ports command now db
  generalize command.exec ports now db = out at h hi ⊢
  cases h with
  | refused => simp [issuedBy] at hi
  | rolledBack hresult =>
    unfold issuedBy at hi
    split at hi
    · next heq => cases heq; exact hresult.elim
    · next heq => cases heq; exact hresult.elim
    · cases hi
  | @committed reads _ _ db' hreads hcommit hwrite =>
    obtain ⟨ws, rfl, hwork⟩ := hcommit
    have hdb : ∀ r ∈ reads, r.2 = db := fun r hr => by rw [hreads r hr]
    have hlawful := hwork.lawful (.alone hdb)
    have hlater := hwork.later hdb hwrite
    cases hwork with
    | @login email password draw now₁ db₁ now₂ db₂ loaded model events hread hactive _ hsave =>
      have hr₁ := hreads (now₁, db₁) (List.mem_cons_self ..)
      have hr₂ := hreads (now₂, db₂) (List.mem_cons_of_mem _ (List.mem_cons_self ..))
      cases hr₁
      cases hr₂
      obtain rfl : i = _ := List.mem_singleton.mp hi
      have hget := Lib.Table.get_of_mem (List.mem_of_find?_eq_some hread)
      obtain ⟨u, hu, hgen, hstays⟩ := hlater.users _ _ hget
      refine ⟨?_, _, u, rfl, rfl, rfl, rfl, hu, hgen, fun heq => hstays heq ?_⟩
      · exact flush_inserted [_] hlawful hwrite
      · simpa [User.isLoginEligible] using hactive
    | @rotate raw draw now₁ db₁ now₂ db₂ now₃ db₃ token user model htoken _ huser heligible =>
      have hr₁ := hreads (now₁, db₁) (by simp)
      have hr₂ := hreads (now₂, db₂) (by simp)
      have hr₃ := hreads (now₃, db₃) (by simp)
      cases hr₁
      cases hr₂
      cases hr₃
      simp only [issuedBy, htoken, Option.toList_some, List.map_cons, List.map_nil,
        List.mem_singleton] at hi
      subst hi
      obtain ⟨u, hu, hgen, hstays⟩ := hlater.users _ _ huser
      have hkey : user.id = token.userId := Lib.Table.key_of_get huser
      refine ⟨?_, _, u, rfl, rfl, hkey, rfl, hu, hgen, fun heq => hstays heq ?_⟩
      · exact flush_inserted [] hlawful hwrite
      · simpa [User.isLoginEligible] using heligible
    | revoking hrevoking => cases hrevoking <;> simp [issuedBy] at hi
    | _ => simp [issuedBy] at hi

/-- Every session of a history is kept, and was issued at the time of one of its commands. -/
structure HistoryInv (ports : Ports) (times : List Timestamp) (h : History) : Prop where
  sound : h.db.Sound
  stored : ∀ i ∈ h.issued, RefreshStored ports h.db i
  signed : ∀ i ∈ h.issued, AccessSigned ports h.db i
  timed : ∀ i ∈ h.issued, i.at' ∈ times

theorem issuedBy_at {command : Command} {now : Timestamp}
    {reply : Option (Except IdentityError Reply)} (hi : i ∈ issuedBy ports db now command reply) :
    i.at' = now := by
  unfold issuedBy at hi
  split at hi
  · rw [List.mem_singleton.mp hi]
  · obtain ⟨t, _, rfl⟩ := List.mem_map.mp hi
    rfl
  · cases hi

theorem HistoryInv.step {times : List Timestamp} {h : History} (hinv : HistoryInv ports times h)
    (a : Command × Timestamp) (ha : a.2 ∈ times) : HistoryInv ports times (h.step ports a) := by
  have hlater := exec_later ports a.1 a.2 h.db
  refine ⟨exec_sound ports a.1 a.2 hinv.sound, fun i hi => ?_, fun i hi => ?_, fun i hi => ?_⟩
  · rcases List.mem_append.mp hi with hold | hnew
    · exact (hinv.stored i hold).later hlater
    · exact (issuedBy_kept ports a.1 a.2 h.db hnew).1
  · rcases List.mem_append.mp hi with hold | hnew
    · exact (hinv.signed i hold).later hlater
    · exact (issuedBy_kept ports a.1 a.2 h.db hnew).2
  · rcases List.mem_append.mp hi with hold | hnew
    · exact hinv.timed i hold
    · rw [issuedBy_at hnew]
      exact ha

theorem history_inv (ports : Ports) {db : Db} (hdb : db.Sound)
    (commands : List (Command × Timestamp)) :
    HistoryInv ports (commands.map Prod.snd) (history ports db commands) := by
  have hrun : ∀ (as : List (Command × Timestamp)) (times : List Timestamp) (h : History),
      (∀ a ∈ as, a.2 ∈ times) → HistoryInv ports times h →
      HistoryInv ports times (as.foldl (History.step ports) h) := by
    intro as times
    induction as with
    | nil => exact fun h _ hinv => hinv
    | cons a as ih =>
      exact fun h hmem hinv => ih _ (fun b hb => hmem b (List.mem_cons_of_mem _ hb))
        (hinv.step a (hmem a (List.mem_cons_self ..)))
  refine hrun commands _ _ (fun a ha => List.mem_map_of_mem ha) ⟨hdb, ?_, ?_, ?_⟩ <;>
    (intro i hi; cases hi)

/-! ### Acceptance and death -/

/-- Some presentation of the refresh token is answered with a new session. -/
def RefreshAccepted (ports : Ports) (db : Db) (now : Timestamp) (raw : String) : Prop :=
  ∃ draw s, ((Command.refreshAccessToken raw draw).exec ports now db).2 = some (.ok (.refreshed s))

def AccessAccepted (ports : Ports) (db : Db) (now : Timestamp) (token : String) : Prop :=
  ∃ claims, getCurrentClaims ports now token db = .ok claims

/-- The token of a revoked row is refused. -/
theorem refresh_refused (hdb : db.Sound) {t : RefreshToken} (ht : t ∈ db.refreshTokens.rows)
    {raw : String} (hhash : t.tokenHash = ports.hashToken raw) (hrevoked : t.revokedAt ≠ none)
    (now : Timestamp) : ¬ RefreshAccepted ports db now raw := by
  rintro ⟨draw, s, hs⟩
  have h := exec_cases ports (.refreshAccessToken raw draw) now db
  generalize Command.exec ports (.refreshAccessToken raw draw) now db = out at h hs
  cases h with
  | refused => cases hs
  | rolledBack hresult => cases hs; exact hresult.elim
  | committed hreads hcommit hwrite =>
    obtain ⟨ws, rfl, hwork⟩ := hcommit
    cases hs
    cases hwork with
    | revoking hrevoking => cases hrevoking
    | @rotate _ _ now₁ db₁ _ _ _ _ token _ _ htoken hactive =>
      have hr := hreads (now₁, db₁) (List.mem_cons_self ..)
      cases hr
      obtain ⟨hmem, htokenHash⟩ := getByTokenHash_some htoken
      obtain rfl := hdb.unique token hmem t ht (htokenHash.trans hhash.symm)
      unfold RefreshToken.isActive at hactive
      rw [Bool.and_eq_true_iff, Option.isNone_iff_eq_none] at hactive
      exact hrevoked hactive.1

/-- What is needed for an access token to be accepted. -/
theorem access_accepted_iff {now : Timestamp} {token : String} :
    AccessAccepted ports db now token ↔ ∃ claims u, ports.decodeClaims now token = .ok claims ∧
      ¬ (claims.jti ≠ "" ∧ db.isRevoked claims.jti) ∧ db.users.get claims.userId = some u ∧
      u.status = .active ∧ u.tokenGeneration = claims.tokenGeneration := by
  unfold AccessAccepted getCurrentClaims
  cases ports.decodeClaims now token with
  | error e => simp
  | ok claims =>
    by_cases hdenied : claims.jti ≠ "" ∧ db.isRevoked claims.jti
    · simp [hdenied]
    · cases hu : db.users.get claims.userId with
      | none => simp [hdenied, hu]
      | some u =>
        have hfree : ¬ claims.jti = "" → db.isRevoked claims.jti = false := by simpa using hdenied
        by_cases hactive : u.status = .active <;>
          by_cases hgen : u.tokenGeneration = claims.tokenGeneration <;>
          simp [hdenied, hu, User.isLoginEligible, hactive, hgen]
        exact hfree

/-- A signed token decodes to its own claims, from when it was issued until it expires. -/
theorem Ports.RoundTrip.decodeClaims (hports : ports.RoundTrip) {now : Timestamp}
    {p : AccessTokenPayload} {claims : AccessTokenClaims} :
    ports.decodeClaims now (ports.encode p) = .ok claims ↔
      p.iat ≤ epochSeconds now ∧ epochSeconds now < p.exp ∧ p.type = "access" ∧
        claims = Ports.claimsOf p := by
  unfold Ports.decodeClaims
  rw [hports.decode_encode]
  by_cases hiat : epochSeconds now < p.iat
  · simp [hiat]
  · by_cases hexp : p.exp ≤ epochSeconds now
    · simp [hiat, hexp]
    · by_cases htype : p.type = "access"
      · simp [hiat, hexp, htype, not_lt.mp hiat, not_le.mp hexp, eq_comm]
      · simp [hiat, hexp, htype]

/-- Both halves are past: the refresh token is revoked, and the user has left the generation of the
    access token behind. -/
structure Dead (ports : Ports) (db : Db) (i : Issued) : Prop where
  refresh : ∃ t ∈ db.refreshTokens.rows, t.tokenHash = ports.hashToken i.refreshToken ∧
    t.revokedAt ≠ none
  access : ∃ p u, i.accessToken = ports.encode p ∧ db.users.get p.sub = some u ∧
    p.gen < u.tokenGeneration

theorem Dead.later (h : Dead ports db i) (hlater : Later db db') : Dead ports db' i := by
  obtain ⟨⟨t, ht, hhash, hrevoked⟩, p, u, htoken, hu, hgen⟩ := h
  obtain ⟨t', ht', hhash', -, hstays⟩ := hlater.tokens.row ht
  obtain ⟨u', hu', hgen', -⟩ := hlater.users _ _ hu
  exact ⟨⟨t', ht', hhash'.trans hhash, hstays hrevoked⟩, p, u', htoken, hu', hgen.trans_le hgen'⟩

/-- A dead session is refused. -/
theorem Dead.refused (hports : ports.RoundTrip) (h : Dead ports db i) (hdb : db.Sound)
    (now : Timestamp) : ¬ RefreshAccepted ports db now i.refreshToken ∧
      ¬ AccessAccepted ports db now i.accessToken := by
  obtain ⟨⟨t, ht, hhash, hrevoked⟩, p, u, htoken, hu, hgen⟩ := h
  refine ⟨refresh_refused hdb ht hhash hrevoked now, ?_⟩
  rw [access_accepted_iff, htoken]
  rintro ⟨claims, u', hclaims, -, hu', -, hgen'⟩
  obtain ⟨-, -, -, rfl⟩ := hports.decodeClaims.mp hclaims
  rw [show (Ports.claimsOf p).userId = p.sub from rfl, hu] at hu'
  cases hu'
  exact absurd hgen' hgen.ne'

/-! ### Access tokens that can be told apart -/

instance encodableChar : Encodable Char := Encodable.ofLeftInverse Char.toNat Char.ofNat Char.ofNat_toNat

instance encodableString : Encodable String :=
  Encodable.ofLeftInverse String.toList String.ofList fun _ => String.ofList_toList

deriving instance Encodable for TenantId, UserId, RoleName, PermissionCode
deriving instance Encodable for AccessTokenPayload

/-- Passwords and refresh tokens kept in the clear; an access token is as long as the number of its
    payload. -/
def tallyPorts : Ports where
  verify := fun plaintext hashed => plaintext = hashed
  hash := fun _ plaintext => plaintext
  hashToken := id
  encode := fun p => String.ofList (List.replicate (Encodable.encode p) '|')
  decode := fun t token =>
    match (Encodable.decode token.length : Option AccessTokenPayload) with
    | none => .error .invalidToken
    | some p =>
      if t < p.iat then .error .invalidToken
      else if p.exp ≤ t then .error .expiredSignature
      else .ok p
  ttlSeconds := 900

theorem tallyPorts_roundTrip : tallyPorts.RoundTrip := ⟨fun p t => by simp [tallyPorts]⟩

end GeoRisk.Identity
