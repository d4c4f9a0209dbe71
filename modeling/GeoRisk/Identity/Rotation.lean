import Mathlib
import GeoRisk.Identity.Interleaving

/-! Is a refresh token redeemed at most once? Along the chain of a login only the last token can be
    unrevoked, whatever the interleaving. But two refreshes that read a token before either commits
    both redeem it. What the first leaves in the row is no help: the whole row is saved, and a logout
    that read the token before it was redeemed writes `replaced_by_id` back to NULL. What stays is the
    event:

        refresh 1:  read token (unrevoked) ──▶ commit: RefreshTokenRotated
        refresh 2:  read token (unrevoked) ─────────────────────────────▶ commit: redeemed again

    The tokens are single-use exactly when no redemption commits after the token's rotation is on
    record. -/

namespace GeoRisk.Identity

/-- The request is a redemption of the token with this hash, and succeeded. -/
def Redeems (ports : Ports) (command : Command) (result : Except IdentityError Reply)
    (tokenHash : String) : Prop :=
  ∃ raw draw s, command = .refreshAccessToken raw draw ∧ ports.hashToken raw = tokenHash ∧
    result = .ok (.refreshed s)

/-- A rotation of this token is on record in the outbox. -/
def Db.RotationOf (db : Db) (id : RefreshTokenId) : Prop :=
  ∃ e ∈ db.outbox, e.payload.rotated = some id

/-- A rotation of the token with this hash is on record. -/
def Db.Rotated (db : Db) (tokenHash : String) : Prop :=
  ∃ t ∈ db.refreshTokens.rows, t.tokenHash = tokenHash ∧ db.RotationOf t.id

/-- The token with this hash is revoked. -/
def Db.Revoked (db : Db) (tokenHash : String) : Prop :=
  ∃ t ∈ db.refreshTokens.rows, t.tokenHash = tokenHash ∧ t.revokedAt ≠ none

section Conditions

variable {ι : Type} (ports : Ports) (commands : ι → Command)

/-- Every token has been redeemed at most once, and along the chain of every login at most one token
    is unrevoked. -/
structure SingleUse (s : IdentityTrace ι) : Prop where
  once : ∀ i j r r' h, s.world.sessions i = .committed r → Redeems ports (commands i) r h →
    s.world.sessions j = .committed r' → Redeems ports (commands j) r' h → i = j
  chain : ∀ i session, s.world.sessions i = .committed (.ok (.authenticated session)) →
    ∀ t, s.world.db.getByTokenHash (ports.hashToken session.rawRefreshToken) = some t →
    ∀ x y, s.world.db.Chain t x → s.world.db.Chain t y → x.revokedAt = none → y.revokedAt = none →
      x = y

/-- The next step commits no redemption of a token whose rotation is on record. -/
def RedeemsUnrotated (s : IdentityTrace ι) (t : ι × Timestamp) : Prop :=
  ∀ write result h, s.world.sessions t.1 = .running (.commit write result) →
    write s.world.db ≠ none → Redeems ports (commands t.1) result h → ¬ s.world.db.Rotated h

/-- The next step commits no redemption of a token that has been revoked. -/
def RedeemsUnrevoked (s : IdentityTrace ι) (t : ι × Timestamp) : Prop :=
  ∀ write result h, s.world.sessions t.1 = .running (.commit write result) →
    write s.world.db ≠ none → Redeems ports (commands t.1) result h → ¬ s.world.db.Revoked h

end Conditions

/-! ### What a commit puts on record -/

section Work

variable {ports : Ports} {command : Command} {reads : List (Timestamp × Db)} {ws : List Write}
  {result : Except IdentityError Reply} {db db' : Db}

theorem Write.IsEvent.unrotated {w : Write} (h : w.IsEvent) : w.rotated = none := by
  cases w with
  | append => exact h
  | _ => rfl

theorem Write.Denies.unrotated {w : Write} (h : w.Denies) : w.rotated = none := by
  cases w <;> trivial

/-- What a redemption writes: the token that was presented is updated, and its rotation recorded. -/
theorem Work.redeems (h : Work ports command reads ws result) {tokenHash : String}
    (hredeems : Redeems ports command result tokenHash) :
    ∃ r ∈ reads, ∃ token, r.2.getByTokenHash tokenHash = some token ∧
      (∃ model saved, Write.updateToken model saved ∈ ws ∧ model.id = token.id) ∧
      ∀ id, (∃ w ∈ ws, w.rotated = some id) ↔ id = token.id := by
  obtain ⟨raw, draw, s, rfl, rfl, rfl⟩ := hredeems
  cases h with
  | @rotate _ _ now db now' db' now₁ db₁ token user model htoken _ _ _ hsave =>
    refine ⟨(now, db), List.mem_cons_self .., token, htoken,
      ⟨model, token.revoke (some draw.id) now', ?_, Lib.Table.key_of_get hsave⟩, fun id => ?_⟩
    · exact List.mem_cons_of_mem _ (List.mem_cons_self ..)
    · simp [Write.rotated, tokenEvent, IdentityEvent.rotated, eq_comm]
  | revoking hrevoking => cases hrevoking

/-- Nothing else records a rotation. -/
theorem Work.unrotated (h : Work ports command reads ws result)
    (hno : ∀ tokenHash, ¬ Redeems ports command result tokenHash) : ∀ w ∈ ws, w.rotated = none := by
  have hevents : ∀ {events : List Write}, (∀ w ∈ events, Write.IsEvent w) →
      ∀ w ∈ events, w.rotated = none := fun hev w hw => (hev w hw).unrotated
  have hmodels : ∀ {models : List RefreshToken} {now : Timestamp},
      ∀ w ∈ revokeModels models now, w.rotated = none := by
    intro models now w hw
    obtain ⟨model, -, rfl⟩ := mem_revokeModels hw
    rfl
  cases h with
  | rotate => exact absurd ⟨_, _, _, rfl, rfl, rfl⟩ (hno _)
  | login _ _ _ _ hev =>
    exact List.forall_mem_cons.mpr ⟨rfl, List.forall_mem_cons.mpr ⟨rfl, hevents hev⟩⟩
  | reuse _ _ hev => exact List.forall_mem_append.mpr ⟨hmodels, hevents (by simpa using hev)⟩
  | logout _ _ _ hev hentry =>
    exact List.forall_mem_cons.mpr ⟨rfl, List.forall_mem_cons.mpr
      ⟨hev.unrotated, fun w hw => (hentry w hw).unrotated⟩⟩
  | logoutAccess _ hentry => exact fun w hw => (hentry w hw).unrotated
  | revoking hrevoking hev =>
    refine List.forall_mem_append.mpr ⟨List.forall_mem_append.mpr ⟨?_, hmodels⟩, hevents hev⟩
    rcases hrevoking.extra with rfl | ⟨used, token, now, rfl⟩ <;> simp [Write.rotated]
  | loginFailed hev | inviteUser hev | acceptInvitation _ _ _ _ _ hev
  | changeUserRole _ _ _ _ _ _ hev | reactivateUser _ _ _ _ hev | requestPasswordReset _ hev
  | createTenant hev | createOwner hev => simpa [Write.rotated] using hev.unrotated

/-- The recorded rotations are of revoked tokens. -/
def Db.RotationsRevoked (db : Db) : Prop :=
  ∀ id, db.RotationOf id → RevokedIn db.refreshTokens id

/-- A commit records the rotations of the tokens that it redeems, and revokes them. -/
theorem Work.rotations (h : Work ports command reads ws result) (hreads : LedTo reads db)
    (hdb : db.RotationsRevoked) (hflush : flush ws db = some db') :
    db'.RotationsRevoked ∧
      ∀ x, db'.Rotated x ↔ db.Rotated x ∨ Redeems ports command result x := by
  have hlater := h.tokensLater hreads hflush
  have hrecord := flush_rotated hflush
  -- the tokens on record before keep their hashes
  have hold : ∀ t' ∈ db'.refreshTokens.rows, db.RotationOf t'.id → db.Rotated t'.tokenHash := by
    intro t' ht' hrotation
    obtain ⟨t, ht, -⟩ := hdb _ hrotation
    obtain ⟨t'', ht'', hhash, -⟩ := hlater _ t ht
    rw [Lib.Table.get_of_mem ht'] at ht''
    cases ht''
    have hkey : t.id = t'.id := Lib.Table.key_of_get ht
    exact ⟨t, Lib.Table.mem_of_get ht, hhash.symm, hkey ▸ hrotation⟩
  have hstill : ∀ x, db.Rotated x → db'.Rotated x := by
    rintro x ⟨t, ht, hhash, hrotation⟩
    have hget := Lib.Table.get_of_mem ht
    obtain ⟨t', ht', hhash', -⟩ := hlater _ t hget
    have hkey : t'.id = t.id := Lib.Table.key_of_get ht'
    exact ⟨t', Lib.Table.mem_of_get ht', hhash'.trans hhash,
      (hrecord _).mpr (Or.inl (hkey ▸ hrotation))⟩
  by_cases hredeems : ∃ x, Redeems ports command result x
  · obtain ⟨x, hredeems⟩ := hredeems
    obtain ⟨r, hr, token, htoken, ⟨model, saved, hw, hid⟩, hnew⟩ := h.redeems hredeems
    obtain ⟨hmem, hhash⟩ := getByTokenHash_some htoken
    obtain ⟨t', ht', hhash', -⟩ :=
      ((hreads.later r hr).trans hlater) _ token (Lib.Table.get_of_mem hmem)
    have hkey : t'.id = token.id := Lib.Table.key_of_get ht'
    constructor
    · intro id hrotation
      rcases (hrecord id).mp hrotation with hrotation | hrotation
      · exact (hdb id hrotation).later hlater
      · rw [(hnew id).mp hrotation, ← hid]
        exact foldlM_onTokens_revokes (h.lawful hreads) (flush_tokens hflush) hw
    · intro y
      constructor
      · rintro ⟨t'', ht'', rfl, hrotation⟩
        rcases (hrecord _).mp hrotation with hrotation | hrotation
        · exact Or.inl (hold t'' ht'' hrotation)
        · refine Or.inr ?_
          rw [← (hnew _).mp hrotation, Lib.Table.get_of_mem ht''] at ht'
          cases ht'
          rwa [hhash', hhash]
      · rintro (hrotated | ⟨raw, draw, s, hcommand, rfl, -⟩)
        · exact hstill y hrotated
        · obtain ⟨raw', draw', s', hcommand', rfl, -⟩ := hredeems
          rw [hcommand] at hcommand'
          cases hcommand'
          exact ⟨t', Lib.Table.mem_of_get ht', hhash'.trans hhash,
            (hrecord _).mpr (Or.inr ((hnew _).mpr hkey))⟩
  · have hno := not_exists.mp hredeems
    have hsame : ∀ id, db'.RotationOf id → db.RotationOf id := by
      intro id hrotation
      refine ((hrecord id).mp hrotation).resolve_right ?_
      rintro ⟨w, hw, hrotated⟩
      rw [h.unrotated hno w hw] at hrotated
      cases hrotated
    refine ⟨fun id hrotation => (hdb id (hsame id hrotation)).later hlater, fun y => ?_⟩
    rw [or_iff_left (hno y)]
    refine ⟨?_, hstill y⟩
    rintro ⟨t', ht', rfl, hrotation⟩
    exact hold t' ht' (hsame _ hrotation)

end Work

/-! ### All interleavings -/

section Results

variable {ι : Type} {ports : Ports} {commands : ι → Command} {s : IdentityTrace ι}

/-- The rotations on record are of revoked tokens, those that some request has redeemed. -/
structure Rotations (ports : Ports) (commands : ι → Command) (s : IdentityTrace ι) : Prop where
  tracked : Interleaved ports commands s
  revoked : s.world.db.RotationsRevoked
  linked : ∀ h, s.world.db.Rotated h ↔
    ∃ i r, s.world.sessions i = .committed r ∧ Redeems ports (commands i) r h

theorem rotations_start {db : Db} (hdb : db.Sound) (hnone : ∀ id, ¬ db.RotationOf id) :
    Rotations ports commands (identityStart ports commands db) := by
  refine ⟨interleaved_start ports commands hdb, fun id hrotation => absurd hrotation (hnone id), ?_⟩
  intro h
  constructor
  · rintro ⟨t, -, -, hrotation⟩
    exact absurd hrotation (hnone _)
  · rintro ⟨i, r, hr, -⟩
    cases hr

/-- Only redemptions can go wrong. -/
theorem Rotations.singleUse (h : Rotations ports commands s)
    (honce : ∀ i j r r' h, s.world.sessions i = .committed r → Redeems ports (commands i) r h →
      s.world.sessions j = .committed r' → Redeems ports (commands j) r' h → i = j) :
    SingleUse ports commands s :=
  ⟨honce, fun _ _ _ _ ht _ _ hx hy hxr hyr =>
    h.tracked.good.chain_unique (getByTokenHash_some ht).1 hx hy hxr hyr⟩

/-- A token whose rotation is on record is revoked. -/
theorem Rotations.redeemsUnrotated (h : Rotations ports commands s) {t : ι × Timestamp}
    (hok : RedeemsUnrevoked ports commands s t) : RedeemsUnrotated ports commands s t := by
  rintro write result x hi hw hred ⟨token, hmem, hhash, hrotation⟩
  obtain ⟨token', hget, hrevoked⟩ := h.revoked _ hrotation
  rw [Lib.Table.get_of_mem hmem] at hget
  cases hget
  exact hok write result x hi hw hred ⟨token, hmem, hhash, hrevoked⟩

variable [DecidableEq ι]

theorem Rotations.step (h : Rotations ports commands s) (t : ι × Timestamp) :
    Rotations ports commands (s.step t) := by
  have htracked := h.tracked.step t
  rcases s.world.step_commit_or_quiet t with ⟨write, result, db', hi, hw, hstep⟩ | ⟨hsame, hold⟩
  · obtain ⟨ws, rfl, hwork⟩ := h.tracked.work hi
    obtain ⟨hrevoked, hrotated⟩ := hwork.rotations (h.tracked.ledTo t.1) h.revoked hw
    refine ⟨htracked, by rw [Lib.Traced.step_world, hstep]; exact hrevoked, fun x => ?_⟩
    rw [Lib.Traced.step_world, hstep]
    refine (hrotated x).trans ⟨?_, ?_⟩
    · rintro (hbefore | hnew)
      · obtain ⟨i, r, hr, hred⟩ := (h.linked x).mp hbefore
        have hne : i ≠ t.1 := by
          rintro rfl
          rw [hi] at hr
          cases hr
        exact ⟨i, r, (s.world.set_ne hne _).trans hr, hred⟩
      · exact ⟨t.1, result, s.world.set_self .., hnew⟩
    · rintro ⟨i, r, hr, hred⟩
      rcases eq_or_ne i t.1 with rfl | hne
      · obtain rfl : result = r := by simpa using hr
        exact Or.inr hred
      · exact Or.inl ((h.linked x).mpr ⟨i, r, (s.world.set_ne hne _).symm.trans hr, hred⟩)
  · refine ⟨htracked, by rw [Lib.Traced.step_world, hsame]; exact h.revoked, fun x => ?_⟩
    rw [Lib.Traced.step_world, hsame, h.linked]
    simp only [hold]

theorem singleUse_step (h : Rotations ports commands s) (hP : SingleUse ports commands s)
    (t : ι × Timestamp) :
    SingleUse ports commands (s.step t) ↔ RedeemsUnrotated ports commands s t := by
  rcases s.world.step_commit_or_quiet t with ⟨write, result, db', hi, hw, hstep⟩ | ⟨-, hold⟩
  · have hself : (s.step t).world.sessions t.1 = .committed result := by
      rw [Lib.Traced.step_world, hstep]
      exact s.world.set_self ..
    have hother : ∀ j, j ≠ t.1 → (s.step t).world.sessions j = s.world.sessions j := by
      intro j hj
      rw [Lib.Traced.step_world, hstep]
      exact s.world.set_ne hj _
    constructor
    · intro hP' write' result' x hi' _ hred hrotated
      rw [hi] at hi'
      cases hi'
      obtain ⟨j, r, hr, hred'⟩ := (h.linked x).mp hrotated
      have hne : j ≠ t.1 := by
        rintro rfl
        rw [hi] at hr
        cases hr
      exact hne (hP'.once j t.1 r result x ((hother j hne).trans hr) hred' hself hred)
    · intro hok
      -- a second redemption would have found the first on record
      have hclash : ∀ j r x, j ≠ t.1 → (s.step t).world.sessions j = .committed r →
          Redeems ports (commands j) r x → ¬ Redeems ports (commands t.1) result x := by
        intro j r x hne hr hred hred'
        rw [hother j hne] at hr
        exact hok write result x hi (by simp [hw]) hred' ((h.linked x).mpr ⟨j, r, hr, hred⟩)
      refine (h.step t).singleUse fun i j r r' x hr hred hr' hred' => ?_
      by_cases hit : i = t.1 <;> by_cases hjt : j = t.1
      · rw [hit, hjt]
      · subst hit
        rw [hself] at hr
        cases hr
        exact absurd hred (hclash j r' x hjt hr' hred')
      · subst hjt
        rw [hself] at hr'
        cases hr'
        exact absurd hred' (hclash i r x hit hr hred)
      · exact hP.once i j r r' x ((hother i hit).symm.trans hr) hred
          ((hother j hjt).symm.trans hr') hred'
  · refine iff_of_true ((h.step t).singleUse fun i j r r' x hr hred hr' hred' => ?_) ?_
    · exact hP.once i j r r' x ((hold i r).mp hr) hred ((hold j r').mp hr') hred'
    · intro write result x hi hw
      obtain ⟨db', hdb'⟩ := Option.ne_none_iff_exists'.mp hw
      have hcommitted : (s.world.step t).sessions t.1 = .committed result := by
        simp [Lib.World.step, hi, hdb']
      rw [hold, hi] at hcommitted
      cases hcommitted

/-- Tokens stay single-use throughout an interleaving of requests iff no redemption commits after the
    rotation of its token is on record; none does if every redemption commits over an unrevoked
    token. -/
theorem singleUse_iff (ports : Ports) (commands : ι → Command) {db : Db} (hdb : db.Sound)
    (hnone : ∀ id, ¬ db.RotationOf id) (schedule : List (ι × Timestamp)) :
    (Lib.AllStates Lib.Traced.step (SingleUse ports commands) (identityStart ports commands db)
        schedule ↔
      Lib.AllSteps Lib.Traced.step (RedeemsUnrotated ports commands)
        (identityStart ports commands db) schedule) ∧
    (Lib.AllSteps Lib.Traced.step (RedeemsUnrevoked ports commands)
        (identityStart ports commands db) schedule →
      Lib.AllStates Lib.Traced.step (SingleUse ports commands) (identityStart ports commands db)
        schedule) := by
  have hstart : Rotations ports commands (identityStart ports commands db) :=
    rotations_start hdb hnone
  have hsingle : SingleUse ports commands (identityStart ports commands db) :=
    hstart.singleUse fun _ _ _ _ _ hr => by cases hr
  constructor
  · exact Lib.allStates_iff_allSteps (J := Rotations ports commands)
      (fun _ t h hP => singleUse_step h hP t) (fun _ t h _ _ => h.step t) hstart hsingle
  · intro hall
    have hboth := Lib.allStates_of_inv
      (P := fun s => Rotations ports commands s ∧ SingleUse ports commands s)
      (fun s t h hok => ⟨h.1.step t, (singleUse_step h.1 h.2 t).mpr (h.1.redeemsUnrotated hok)⟩)
      ⟨hstart, hsingle⟩ hall
    exact hboth.mono fun s h => h.2

end Results

/-! ### Two refreshes at once -/

/-- Alice logs in, and then refreshes the same token twice. -/
def aliceRequests : ℕ → Command
  | 0 => .login "alice@example.org" "secret" ⟨⟨10⟩, "first", "a"⟩
  | n + 1 => .refreshAccessToken "first" ⟨⟨11 + n⟩, toString n, "b"⟩

/-- Both refreshes read the token before either commits. -/
def refreshedTwice : List (ℕ × Timestamp) :=
  [(0, 0), (0, 0), (0, 0), (1, 1), (2, 1), (1, 2), (2, 2), (1, 3), (2, 3), (1, 4), (2, 4)]

theorem singleUse_iff_sample :
    (Lib.AllStates Lib.Traced.step (SingleUse plainPorts aliceRequests)
        (identityStart plainPorts aliceRequests aliceDb) refreshedTwice ↔
      Lib.AllSteps Lib.Traced.step (RedeemsUnrotated plainPorts aliceRequests)
        (identityStart plainPorts aliceRequests aliceDb) refreshedTwice) ∧
    (Lib.AllSteps Lib.Traced.step (RedeemsUnrevoked plainPorts aliceRequests)
        (identityStart plainPorts aliceRequests aliceDb) refreshedTwice →
      Lib.AllStates Lib.Traced.step (SingleUse plainPorts aliceRequests)
        (identityStart plainPorts aliceRequests aliceDb) refreshedTwice) :=
  singleUse_iff plainPorts aliceRequests aliceDb_sound
    (by rintro id ⟨e, he, -⟩; cases he) refreshedTwice

/-- Both redeem it. -/
theorem redeemed_twice : ¬ ∀ (ports : Ports) (commands : ℕ → Command) (db : Db)
    (schedule : List (ℕ × Timestamp)), db.refreshTokens.rows = [] → db.outbox = [] →
    (∀ i, (∃ email password draw, commands i = .login email password draw) ∨
      (∃ raw draw, commands i = .refreshAccessToken raw draw) ∨
      ∃ raw claims expiresAt, commands i = .logout raw claims expiresAt) →
    Lib.AllStates Lib.Traced.step (SingleUse ports commands) (identityStart ports commands db)
      schedule := by
  intro h
  have hlast := (h plainPorts aliceRequests aliceDb refreshedTwice rfl rfl ?_).last
  · have hred : ∀ n s, Redeems plainPorts (aliceRequests (n + 1)) (.ok (.refreshed s)) "first" :=
      fun n s => ⟨"first", _, s, rfl, rfl, rfl⟩
    exact absurd (hlast.once 1 2 _ _ _ rfl (hred 0 _) rfl (hred 1 _)) (by decide)
  · rintro (_ | n)
    · exact Or.inl ⟨_, _, _, rfl⟩
    · exact Or.inr (Or.inl ⟨_, _, rfl⟩)

end GeoRisk.Identity
