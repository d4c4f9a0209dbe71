import Mathlib
import GeoRisk.Identity.FinalRevocation

/-! Does reuse detection end every session? It revokes the refresh tokens of the user and says so, but
    leaves the generation alone: the access tokens that are alive at that moment stay alive, and the
    sessions are ended exactly when there are none. -/

namespace GeoRisk.Identity

variable {ports : Ports}

/-- The answer to a reused token. -/
def ReuseDetected (reply : Option (Except IdentityError Reply)) : Prop :=
  ∃ error, reply = some (.error error) ∧ error.kind = .refreshTokenReuseDetected

/-- Past for access: it has expired, is on the denylist, or is of a generation the user has left. -/
def AccessPast (ports : Ports) (db : Db) (now : Timestamp) (i : Issued) : Prop :=
  ∀ claims, ports.decodeClaims now i.accessToken = .ok claims →
    (claims.jti ≠ "" ∧ db.isRevoked claims.jti) ∨
      ∃ user, db.users.get i.userId = some user ∧ claims.tokenGeneration < user.tokenGeneration

/-- What reuse detection leaves: the user's refresh tokens revoked, everything else as it was. -/
theorem reuse_spec {raw : String} {draw : Draw} {now : Timestamp} {db : Db} {token : RefreshToken}
    (htoken : db.getByTokenHash (ports.hashToken raw) = some token)
    (hreuse : ReuseDetected ((Command.refreshAccessToken raw draw).exec ports now db).2) :
    let db' := ((Command.refreshAccessToken raw draw).exec ports now db).1
    (∀ t ∈ db'.refreshTokens.rows, t.userId = token.userId → t.revokedAt ≠ none) ∧
      db'.users = db.users ∧ db'.revokedAccessTokens = db.revokedAccessTokens := by
  obtain ⟨error, hreply, hkind⟩ := hreuse
  have h := exec_cases ports (.refreshAccessToken raw draw) now db
  generalize Command.exec ports (.refreshAccessToken raw draw) now db = out at h hreply ⊢
  cases h with
  | refused => cases hreply
  | rolledBack hresult =>
    cases hreply
    exact absurd hkind hresult
  | @committed _ _ _ db' hreads hcommit hwrite =>
    obtain ⟨ws, rfl, hwork⟩ := hcommit
    have hlater := hwork.tokensLater (.alone fun r hr => by rw [hreads r hr]) hwrite
    cases hreply
    cases hwork with
    | @reuse _ _ now₁ db₁ now₂ db₂ token' event message htoken' hrevoked' hevent =>
      have hr₁ := hreads (now₁, db₁) (List.mem_cons_self ..)
      have hr₂ := hreads (now₂, db₂) (List.mem_cons_of_mem _ (List.mem_cons_self ..))
      cases hr₁
      cases hr₂
      rw [htoken] at htoken'
      cases htoken'
      have hmodels : ∀ w ∈ revokeModels (db.activeTokensOf token.userId) now ++ [event],
          (∀ users, w.onUsers users = some users) ∧
            ∀ entries, w.onRevoked entries = some entries := by
        intro w hw
        rcases List.mem_append.mp hw with hw | hw
        · obtain ⟨model, -, rfl⟩ := mem_revokeModels hw
          exact ⟨fun _ => rfl, fun _ => rfl⟩
        · rw [List.mem_singleton.mp hw]
          exact ⟨hevent.skips.1, hevent.skips.2.2.2⟩
      have husers := flush_users hwrite
      have hdenied := flush_revoked hwrite
      have htokens := flush_tokens hwrite
      rw [foldlM_skip fun w hw => (hmodels w hw).1] at husers
      rw [foldlM_skip fun w hw => (hmodels w hw).2] at hdenied
      rw [List.foldlM_append] at htokens
      obtain ⟨tokens, h₁, h₂⟩ := Option.bind_eq_some_iff.mp htokens
      rw [foldlM_skip fun w hw => by rw [List.mem_singleton.mp hw]; exact hevent.skips.2.1] at h₂
      cases h₂
      refine ⟨selected_revoked hlater (revokeModels_revokes activeTokensOf_unrevoked h₁) ?_,
        (Option.some.inj husers).symm, (Option.some.inj hdenied).symm⟩
      intro id t' ht'
      refine foldlM_onTokens_keys (fun w hw t => ?_) h₁ ht'
      obtain ⟨model, -, rfl⟩ := mem_revokeModels hw
      simp

/-- After a reuse was detected, no session of the user issued before is accepted in any later state
    iff at that moment all its access tokens were past. -/
theorem reuse_ends_sessions_iff (ports : Ports) (hports : ports.RoundTrip) {db : Db} (hdb : db.Sound)
    (before : List (Command × Timestamp)) (raw : String) (draw : Draw) (now : Timestamp)
    (hnow : ∀ a ∈ before, a.2 ≤ now) (token : RefreshToken)
    (htoken : (history ports db before).db.getByTokenHash (ports.hashToken raw) = some token)
    (hreuse : ReuseDetected ((Command.refreshAccessToken raw draw).exec ports now
      (history ports db before).db).2) :
    (∀ after, ∀ i ∈ (history ports db before).issued, i.userId = token.userId →
      ∀ moment, now ≤ moment →
        ¬ RefreshAccepted ports
            (history ports db (before ++ (.refreshAccessToken raw draw, now) :: after)).db moment
            i.refreshToken ∧
          ¬ AccessAccepted ports
            (history ports db (before ++ (.refreshAccessToken raw draw, now) :: after)).db moment
            i.accessToken) ↔
      ∀ i ∈ (history ports db before).issued, i.userId = token.userId →
        AccessPast ports (history ports db before).db now i := by
  have hinv := history_inv ports hdb before
  have hlater := exec_later ports (.refreshAccessToken raw draw) now (history ports db before).db
  have hrun : ∀ after, history ports db (before ++ (.refreshAccessToken raw draw, now) :: after) =
      after.foldl (History.step ports)
        ((history ports db before).step ports (.refreshAccessToken raw draw, now)) := by
    intro after
    rw [history, List.foldl_append, List.foldl_cons, history]
  obtain ⟨hrevoked, husers, hdenied⟩ := reuse_spec htoken hreuse
  constructor
  · intro h i hi hiu claims hclaims
    obtain ⟨p, u, htok, htype, hsub, hiat, hu, hle, hactive⟩ := hinv.signed i hi
    have hclaims' := hclaims
    rw [htok] at hclaims'
    obtain ⟨-, -, -, rfl⟩ := hports.decodeClaims.mp hclaims'
    by_contra hpast
    rw [not_or] at hpast
    have hgen : p.gen = u.tokenGeneration :=
      le_antisymm hle (not_lt.mp fun hlt => hpast.2 ⟨u, hu, hlt⟩)
    -- the token is accepted right after the reuse
    refine (h [] i hi hiu now le_rfl).2 ?_
    rw [access_accepted_iff, hrun]
    refine ⟨_, u, hclaims, ?_, ?_, hactive hgen.symm, hgen.symm⟩
    · rw [List.foldl_nil, History.step, Db.isRevoked, hdenied]
      exact hpast.1
    · rw [List.foldl_nil, History.step, husers]
      exact (congrArg _ hsub).trans hu
  · intro hpast after i hi hiu moment hmoment
    have hafter := history_later ports after
      ((history ports db before).step ports (.refreshAccessToken raw draw, now))
    have hsound := (history_inv ports hdb (before ++ (.refreshAccessToken raw draw, now) :: after)).sound
    rw [hrun] at hsound ⊢
    constructor
    · obtain ⟨t, ht, hhash, huser⟩ := (hinv.stored i hi).later hlater
      obtain ⟨t', ht', hhash', -, hstays⟩ := hafter.tokens.row ht
      exact refresh_refused hsound ht' (hhash'.trans hhash)
        (hstays (hrevoked t ht (huser.trans hiu))) moment
    · rw [access_accepted_iff]
      rintro ⟨claims, u', hclaims, hfree, hu', -, hgen'⟩
      obtain ⟨p, u, htok, htype, hsub, hiat, hu, hle, -⟩ := hinv.signed i hi
      rw [htok] at hclaims
      obtain ⟨-, hexp, -, rfl⟩ := hports.decodeClaims.mp hclaims
      -- what is accepted later has not expired yet
      have hnow' : ports.decodeClaims now i.accessToken = .ok (Ports.claimsOf p) := by
        obtain ⟨a, ha, hat⟩ := List.mem_map.mp (hinv.timed i hi)
        rw [htok, hports.decodeClaims]
        refine ⟨?_, lt_of_le_of_lt (Nat.div_le_div_right hmoment) hexp, htype, rfl⟩
        rw [hiat, ← hat]
        exact Nat.div_le_div_right (hnow a ha)
      rcases hpast i hi hiu _ hnow' with ⟨hjti, hdeny⟩ | ⟨v, hv, hlt⟩
      · exact hfree ⟨hjti, hafter.denied _ (hlater.denied _ hdeny)⟩
      · obtain ⟨w, hw, hgrow, -⟩ := (hlater.trans hafter).users _ _ hv
        rw [show (Ports.claimsOf p).userId = i.userId from hsub, hw] at hu'
        cases hu'
        exact absurd hgen' (hlt.trans_le hgrow).ne'

/-! ### A stolen refresh token -/

/-- Alice logs in and refreshes her session once. -/
def aliceRefreshes : List (Command × Timestamp) :=
  [(.login "alice@example.org" "secret" ⟨⟨10⟩, "first", "a"⟩, 0),
    (.refreshAccessToken "first" ⟨⟨11⟩, "second", "b"⟩, 1)]

/-- Her first refresh token, as it is then. -/
def redeemedToken : RefreshToken :=
  (RefreshToken.issue ⟨10⟩ ⟨1⟩ ⟨1⟩ "first" 0).revoke (some ⟨11⟩) 1

/-- The first token is presented again. -/
theorem aliceReuse : ReuseDetected ((Command.refreshAccessToken "first" ⟨⟨12⟩, "third", "c"⟩).exec
    tallyPorts 2 (history tallyPorts aliceDb aliceRefreshes).db).2 :=
  ⟨_, rfl, rfl⟩

theorem reuse_ends_sessions_iff_sample :
    (∀ after, ∀ i ∈ (history tallyPorts aliceDb aliceRefreshes).issued,
      i.userId = redeemedToken.userId → ∀ moment, 2 ≤ moment →
        ¬ RefreshAccepted tallyPorts (history tallyPorts aliceDb (aliceRefreshes ++
            (.refreshAccessToken "first" ⟨⟨12⟩, "third", "c"⟩, 2) :: after)).db moment
            i.refreshToken ∧
          ¬ AccessAccepted tallyPorts (history tallyPorts aliceDb (aliceRefreshes ++
            (.refreshAccessToken "first" ⟨⟨12⟩, "third", "c"⟩, 2) :: after)).db moment
            i.accessToken) ↔
      ∀ i ∈ (history tallyPorts aliceDb aliceRefreshes).issued, i.userId = redeemedToken.userId →
        AccessPast tallyPorts (history tallyPorts aliceDb aliceRefreshes).db 2 i :=
  reuse_ends_sessions_iff tallyPorts tallyPorts_roundTrip aliceDb_sound aliceRefreshes "first"
    ⟨⟨12⟩, "third", "c"⟩ 2 (by simp [aliceRefreshes]) redeemedToken rfl aliceReuse

/-- The access token of her first login outlives the reuse. -/
theorem access_survives_reuse : ¬ ∀ (ports : Ports) (db : Db) (before : List (Command × Timestamp))
    (raw : String) (draw : Draw) (now : Timestamp) (token : RefreshToken), ports.RoundTrip →
    db.Sound → (∀ a ∈ before, a.2 ≤ now) →
    (history ports db before).db.getByTokenHash (ports.hashToken raw) = some token →
    ReuseDetected ((Command.refreshAccessToken raw draw).exec ports now
      (history ports db before).db).2 →
    ∀ after, ∀ i ∈ (history ports db before).issued, i.userId = token.userId →
      ∀ moment, now ≤ moment →
        ¬ RefreshAccepted ports
            (history ports db (before ++ (.refreshAccessToken raw draw, now) :: after)).db moment
            i.refreshToken ∧
          ¬ AccessAccepted ports
            (history ports db (before ++ (.refreshAccessToken raw draw, now) :: after)).db moment
            i.accessToken := by
  intro h
  have hend := h tallyPorts aliceDb aliceRefreshes "first" ⟨⟨12⟩, "third", "c"⟩ 2 redeemedToken
    tallyPorts_roundTrip aliceDb_sound (by simp [aliceRefreshes]) rfl aliceReuse []
    ⟨⟨1⟩, "first", tallyPorts.encode (tallyPorts.payload 0 "a" (claimsFor (alice.recordLogin 0))), 0⟩
    (List.mem_cons_self ..) rfl 2 le_rfl
  refine hend.2 ?_
  rw [access_accepted_iff]
  refine ⟨_, { alice with lastLoginAt := some 0, version := 1 },
    tallyPorts_roundTrip.decodeClaims.mpr ⟨?_, ?_, rfl, rfl⟩, ?_, rfl, rfl, rfl⟩
  · decide
  · decide
  · decide

end GeoRisk.Identity
