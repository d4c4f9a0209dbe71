import Mathlib
import GeoRisk.Identity.FinalRevocation
import GeoRisk.Identity.Interleaving

/-! Does a bulk revocation win every race? It revokes the tokens that its select has seen, and a
    login or a rotation that has read the tables before the revocation commits does not notice it:

        rotation:   read token (unrevoked) ───────────────────▶ commit: a new, unrevoked token
        revocation:        select tokens ──▶ commit: revoked

    It wins when every unrevoked token it commits over was there for its select, and no login or
    rotation that had begun when it committed succeeds afterwards. -/

namespace GeoRisk.Identity

section Races

variable {ι : Type} (ports : Ports) (requests : ι → Command)

/-- Session `none` is the revocation, the others are the requests it races with. -/
def race (revocation : Command) : Option ι → Command := fun j => j.elim revocation requests

/-- With this result the request has issued the refresh token `raw` to the user: at a login, or for a
    token of the user in `db`. -/
inductive IssuedTo (db : Db) (u : UserId) : Command → Except IdentityError Reply → String → Prop where
  | login {email password draw s} (huser : s.user.id = u) :
    IssuedTo db u (.login email password draw) (.ok (.authenticated s)) draw.raw
  | rotation {raw draw s t} (htoken : db.getByTokenHash (ports.hashToken raw) = some t)
      (huser : t.userId = u) :
    IssuedTo db u (.refreshAccessToken raw draw) (.ok (.refreshed s)) draw.raw

/-- A token that the revocation committing at `before` is to end: it was issued by rotating one that
    existed then, or by a login that had read and verified its user. -/
def ToBeEnded (u : UserId) (before : IdentityTrace (Option ι)) (i : ι)
    (result : Except IdentityError Reply) (raw : String) : Prop :=
  IssuedTo ports before.world.db u (requests i) result raw ∧
    (before.reads (some i) = [] → ∃ raw' draw, requests i = .refreshAccessToken raw' draw)

/-- None of these tokens is active, at any moment. -/
def RevocationWon (u : UserId) (before s : IdentityTrace (Option ι)) : Prop :=
  ∀ i result raw, s.world.sessions (some i) = .committed result →
    ToBeEnded ports requests u before i result raw →
    ∀ t ∈ s.world.db.refreshTokens.rows, t.tokenHash = ports.hashToken raw →
      ∀ moment, ¬ t.isActive moment

/-- The unrevoked tokens of the user were there when the revocation selected them. -/
def SelectsAll (u : UserId) (before : IdentityTrace (Option ι)) : Prop :=
  ∀ r ∈ (before.reads none).getLast?, ∀ t ∈ before.world.db.refreshTokens.rows, t.userId = u →
    t.revokedAt = none → (r.2.refreshTokens.get t.id).isSome

/-- The next step is the commit of a request that had begun when the revocation committed, and issues
    a token to the user. -/
def CommitsLate (u : UserId) (before s : IdentityTrace (Option ι)) (t : Option ι × Timestamp) :
    Prop :=
  ∃ i write result raw, t.1 = some i ∧ s.world.sessions (some i) = .running (.commit write result) ∧
    write s.world.db ≠ none ∧ before.reads (some i) ≠ [] ∧
    IssuedTo ports before.world.db u (requests i) result raw

end Races

/-! ### What was issued is stored -/

section Kept

variable {ports : Ports} {db db' : Db} {command : Command} {result : Except IdentityError Reply}

/-- The token that was issued is there, under its user; after a rotation it is the user of the token
    that was presented. -/
def IssuedKept (ports : Ports) (db : Db) : Command → Except IdentityError Reply → Prop
  | .login _ _ draw, .ok (.authenticated s) =>
    ∃ t ∈ db.refreshTokens.rows, t.tokenHash = ports.hashToken draw.raw ∧ t.userId = s.user.id
  | .refreshAccessToken raw draw, .ok (.refreshed _) =>
    ∃ old ∈ db.refreshTokens.rows, ∃ t ∈ db.refreshTokens.rows,
      old.tokenHash = ports.hashToken raw ∧ t.tokenHash = ports.hashToken draw.raw ∧
        t.userId = old.userId
  | _, _ => True

theorem IssuedKept.later (h : IssuedKept ports db command result)
    (hlater : TokensLater db.refreshTokens db'.refreshTokens) :
    IssuedKept ports db' command result := by
  unfold IssuedKept at h ⊢
  split at h
  · obtain ⟨t, ht, hhash, huser⟩ := h
    obtain ⟨t', ht', hhash', huser', -⟩ := hlater.row ht
    exact ⟨t', ht', hhash'.trans hhash, huser'.trans huser⟩
  · obtain ⟨old, hold, t, ht, hraw, hhash, huser⟩ := h
    obtain ⟨old', hold', hraw', holder, -⟩ := hlater.row hold
    obtain ⟨t', ht', hhash', huser', -⟩ := hlater.row ht
    exact ⟨old', hold', t', ht', hraw'.trans hraw, hhash'.trans hhash,
      huser'.trans (huser.trans holder.symm)⟩
  · trivial

/-- A commit stores what it issues. -/
theorem Work.issuedKept {reads : List (Timestamp × Db)} {ws : List Write}
    (h : Work ports command reads ws result) (hreads : LedTo reads db)
    (hflush : flush ws db = some db') : IssuedKept ports db' command result := by
  have hlawful := h.lawful hreads
  have hlater := h.tokensLater hreads hflush
  cases h with
  | login => exact flush_inserted [_] hlawful hflush
  | @rotate raw draw now₁ db₁ now₂ db₂ now₃ db₃ token user model htoken =>
    obtain ⟨hmem, hhash⟩ := getByTokenHash_some htoken
    have hkept := (hreads.later (now₁, db₁) (List.mem_cons_self ..)).trans hlater
    obtain ⟨old, hold, hraw, huser, -⟩ := hkept.row hmem
    obtain ⟨t, ht, hhash', huser'⟩ := flush_inserted [] hlawful hflush
    exact ⟨old, hold, t, ht, hraw.trans hhash, hhash', huser'.trans huser.symm⟩
  | revoking hrevoking => cases hrevoking <;> trivial
  | _ => trivial

/-- The token of the user that was issued. -/
theorem IssuedKept.row (h : IssuedKept ports db command result) (hdb : db.Sound) {u : UserId}
    {raw : String} (hissued : IssuedTo ports db u command result raw) :
    ∃ t ∈ db.refreshTokens.rows, t.tokenHash = ports.hashToken raw ∧ t.userId = u := by
  cases hissued with
  | login huser =>
    obtain ⟨t, ht, hhash, hsame⟩ := h
    exact ⟨t, ht, hhash, hsame.trans huser⟩
  | rotation htoken huser =>
    obtain ⟨old, hold, t, ht, hraw, hhash, hsame⟩ := h
    obtain ⟨hmem, hhash'⟩ := getByTokenHash_some htoken
    rw [hdb.unique old hold _ hmem (hraw.trans hhash'.symm)] at hsame
    exact ⟨t, ht, hhash, hsame.trans huser⟩

variable {κ : Type} [DecidableEq κ] {commands : κ → Command} {s : IdentityTrace κ}

/-- What the committed sessions have issued is stored. -/
def Stored (ports : Ports) (commands : κ → Command) (s : IdentityTrace κ) : Prop :=
  ∀ j result, s.world.sessions j = .committed result →
    IssuedKept ports s.world.db (commands j) result

theorem Stored.step (h : Stored ports commands s) (hs : Interleaved ports commands s)
    (t : κ × Timestamp) : Stored ports commands (s.step t) := by
  have hlater := (hs.evolves t).2.tokens
  intro j result hj
  rw [Lib.Traced.step_world] at hj hlater ⊢
  rcases s.world.step_commit_or_quiet t with ⟨write, result', db', hi, hwrite, hstep⟩ | ⟨-, hsame⟩
  · rw [hstep] at hj hlater ⊢
    rcases eq_or_ne j t.1 with rfl | hne
    · obtain ⟨ws, rfl, hwork⟩ := hs.work hi
      obtain rfl : result' = result := by simpa using hj
      exact hwork.issuedKept (hs.ledTo _) hwrite
    · have hold : s.world.sessions j = .committed result := by
        simpa only [s.world.set_ne hne] using hj
      exact (h j result hold).later hlater
  · exact (h j result ((hsame j result).mp hj)).later hlater

theorem stored (ports : Ports) (commands : κ → Command) {db : Db} (hdb : db.Sound)
    (schedule : List (κ × Timestamp)) :
    Stored ports commands
      (schedule.foldl Lib.Traced.step (identityStart ports commands db)) := by
  have hboth := Lib.inv_foldl
    (P := fun s => Interleaved ports commands s ∧ Stored ports commands s)
    (fun s t h => ⟨h.1.step t, h.2.step h.1 t⟩) schedule
    ⟨interleaved_start ports commands hdb, by intro j result hj; cases hj⟩
  exact hboth.2

end Kept

/-! ### After the revocation -/

section After

variable {ι : Type} {ports : Ports} {requests : ι → Command} {revocation : Command} {u : UserId}
  {before s : IdentityTrace (Option ι)} {db : Db}

/-- In `db` the tokens of the user that were there before the revocation are revoked. -/
def EndedIn (u : UserId) (before : IdentityTrace (Option ι)) (db : Db) : Prop :=
  ∀ t ∈ before.world.db.refreshTokens.rows, t.userId = u →
    ∃ t' ∈ db.refreshTokens.rows, t'.tokenHash = t.tokenHash ∧ t'.revokedAt ≠ none

theorem EndedIn.later (h : EndedIn u before db) {db' : Db}
    (hlater : TokensLater db.refreshTokens db'.refreshTokens) : EndedIn u before db' := by
  intro t ht huser
  obtain ⟨t', ht', hhash, hrevoked⟩ := h t ht huser
  obtain ⟨t'', ht'', hhash', -, hstays⟩ := hlater.row ht'
  exact ⟨t'', ht'', hhash'.trans hhash, hstays hrevoked⟩

/-- What the revocation leaves, if it has selected all there was to select. -/
theorem revocation_ends (hs : Interleaved ports (race requests revocation) before)
    {write : Db → Option Db} {reply : Reply} {db' : Db}
    (hready : before.world.sessions none = .running (.commit write (.ok reply)))
    (hwrite : write before.world.db = some db')
    (huser : ∃ r, (before.reads none).head? = some r ∧ revocation.revokes ports r.2 = some u)
    (hselect : SelectsAll u before) : EndedIn u before db' := by
  obtain ⟨ws, rfl, hwork⟩ := hs.work hready
  have hlater := hwork.tokensLater (hs.ledTo none) hwrite
  have hreads := hs.reads none
  obtain ⟨r, hr, hrevokes⟩ := huser
  unfold SelectsAll at hselect
  change Work ports revocation (before.reads none) ws (.ok reply) at hwork
  generalize before.reads none = reads at hwork hr hreads hselect
  cases hwork with
  | @revoking _ reads loaded user model more now dbSel events reply' hrevoking hevents hreply =>
    have hid : loaded.id = u := hrevoking.first fun r' hr' => by
      rw [List.head?_append, hr', Option.some_or] at hr
      rwa [Option.some.inj hr]
    obtain ⟨hsame, -⟩ := hrevoking.generation
    rw [hsame, hid] at hwrite
    obtain ⟨hrevoked, -⟩ := revoking_tokens hrevoking hevents activeTokensOf_unrevoked hwrite
    have hsel := hreads (now, dbSel) (List.mem_append_right _ (List.mem_cons_self ..))
    have hkept := hsel.2.tokens
    intro t ht htu
    obtain ⟨t', ht', hhash, -, hstays⟩ := hlater t.id t (Lib.Table.get_of_mem ht)
    refine ⟨t', Lib.Table.mem_of_get ht', hhash, ?_⟩
    by_cases hnone : t.revokedAt = none
    · -- an unrevoked token was there for the select, unrevoked, and so was selected
      obtain ⟨t₀, ht₀⟩ := Option.isSome_iff_exists.mp
        (hselect (now, dbSel) (by simp) t ht htu hnone)
      obtain ⟨t₁, ht₁, -, huser₁, hstays₁⟩ := hkept t.id t₀ ht₀
      rw [Lib.Table.get_of_mem ht] at ht₁
      cases ht₁
      have hactive : t₀ ∈ dbSel.activeTokensOf u := List.mem_filter.mpr
        ⟨Lib.Table.mem_of_get ht₀, decide_eq_true ⟨huser₁.symm.trans htu,
          by_contra fun hne => hstays₁ hne hnone⟩⟩
      exact hrevoked t₀ hactive t' (by rw [Lib.Table.key_of_get ht₀]; exact ht')
    · exact hstays hnone
  | _ => cases hrevokes

/-- After a revocation that has won so far: the user's old tokens are revoked, the sessions that had
    not begun have read nothing else, and what was issued before has been ended. -/
structure AfterRevocation (ports : Ports) (requests : ι → Command) (revocation : Command)
    (u : UserId) (before s : IdentityTrace (Option ι)) : Prop where
  inv : Interleaved ports (race requests revocation) s
  ended : EndedIn u before s.world.db
  reads : s.Reads fun j d => j ≠ none → before.reads j = [] → EndedIn u before d
  won : ∀ i result raw, s.world.sessions (some i) = .committed result →
    ToBeEnded ports requests u before i result raw →
    ∃ t ∈ s.world.db.refreshTokens.rows, t.tokenHash = ports.hashToken raw ∧ t.revokedAt ≠ none

theorem AfterRevocation.revocationWon (h : AfterRevocation ports requests revocation u before s) :
    RevocationWon ports requests u before s := by
  intro i result raw hi hended t ht hhash moment hactive
  obtain ⟨t', ht', hhash', hrevoked⟩ := h.won i result raw hi hended
  rw [h.inv.good.unique t ht t' ht' (hhash.trans hhash'.symm)] at hactive
  unfold RefreshToken.isActive at hactive
  rw [Bool.and_eq_true_iff, Option.isNone_iff_eq_none] at hactive
  exact hrevoked hactive.1

/-- A request that had not begun when the revocation committed redeems no old token of the user. -/
theorem AfterRevocation.no_late_rotation
    (h : AfterRevocation ports requests revocation u before s) {i : ι} {write : Db → Option Db}
    {result : Except IdentityError Reply} {raw raw' : String} {draw : Draw}
    (hi : s.world.sessions (some i) = .running (.commit write result))
    (hfresh : before.reads (some i) = []) (hrequest : requests i = .refreshAccessToken raw' draw)
    (hissued : IssuedTo ports before.world.db u (requests i) result raw) : False := by
  obtain ⟨ws, -, hwork⟩ := h.inv.work hi
  have hsound := h.inv.reads (some i)
  have hended := h.reads (some i)
  change Work ports (requests i) (s.reads (some i)) ws result at hwork
  rw [hrequest] at hissued hwork
  generalize s.reads (some i) = reads at hwork hsound hended
  cases hissued with
  | rotation htoken huser =>
    cases hwork with
    | revoking hrevoking => cases hrevoking
    | @rotate _ _ now₁ db₁ now₂ db₂ now₃ db₃ token user model htoken₁ hactive =>
      obtain ⟨hmem, hhash⟩ := getByTokenHash_some htoken
      obtain ⟨hmem₁, hhash₁⟩ := getByTokenHash_some htoken₁
      have hr : (now₁, db₁) ∈ [(now₁, db₁), (now₂, db₂), (now₃, db₃)] := List.mem_cons_self ..
      obtain ⟨t, ht, hsame, hrevoked⟩ := hended _ hr (by simp) hfresh _ hmem huser
      have heq := (hsound _ hr).1.unique t ht token hmem₁ ((hsame.trans hhash).trans hhash₁.symm)
      unfold RefreshToken.isActive at hactive
      rw [Bool.and_eq_true_iff, Option.isNone_iff_eq_none, ← heq] at hactive
      exact hrevoked hactive.1

variable [DecidableEq ι]

theorem AfterRevocation.step (h : AfterRevocation ports requests revocation u before s)
    (t : Option ι × Timestamp) (hlate : ¬ CommitsLate ports requests u before s t) :
    AfterRevocation ports requests revocation u before (s.step t) := by
  have hlater := (h.inv.evolves t).2.tokens
  refine ⟨h.inv.step t, h.ended.later hlater, h.reads.step t (fun _ _ hd => hd)
    (fun _ _ _ => h.ended), fun i result raw hi hended => ?_⟩
  rw [Lib.Traced.step_world] at hi hlater ⊢
  have hold : s.world.sessions (some i) = .committed result →
      ∃ t' ∈ (s.world.step t).db.refreshTokens.rows, t'.tokenHash = ports.hashToken raw ∧
        t'.revokedAt ≠ none := by
    intro hi
    obtain ⟨t', ht', hhash, hrevoked⟩ := h.won i result raw hi hended
    obtain ⟨t'', ht'', hhash', -, hstays⟩ := hlater.row ht'
    exact ⟨t'', ht'', hhash'.trans hhash, hstays hrevoked⟩
  rcases s.world.step_commit_or_quiet t with ⟨write, result', db', hrun, hwrite, hstep⟩ | ⟨-, hsame⟩
  · rcases eq_or_ne (some i) t.1 with heq | hne
    · -- the commit that was just made is of a request that began before, or only afterwards
      rw [← heq] at hrun
      rw [hstep, ← heq] at hi
      obtain rfl : result' = result := by simpa using hi
      obtain ⟨hissued, hread⟩ := hended
      exfalso
      by_cases hfresh : before.reads (some i) = []
      · obtain ⟨raw', draw, hrequest⟩ := hread hfresh
        exact h.no_late_rotation hrun hfresh hrequest hissued
      · exact hlate ⟨i, write, result', raw, heq.symm, hrun, by simp [hwrite], hfresh, hissued⟩
    · refine hold ?_
      rw [hstep] at hi
      simpa only [s.world.set_ne hne] using hi
  · exact hold ((hsame (some i) result).mp hi)

/-- The revocation's own commit begins the time after it. -/
theorem afterRevocation_start (hs : Interleaved ports (race requests revocation) before)
    (hstored : Stored ports (race requests revocation) before) {now : Timestamp}
    {write : Db → Option Db} {reply : Reply}
    (hready : before.world.sessions none = .running (.commit write (.ok reply)))
    (hcommits : write before.world.db ≠ none)
    (huser : ∃ r, (before.reads none).head? = some r ∧ revocation.revokes ports r.2 = some u)
    (hselect : SelectsAll u before) :
    AfterRevocation ports requests revocation u before (before.step (none, now)) := by
  obtain ⟨db', hwrite⟩ := Option.ne_none_iff_exists'.mp hcommits
  have hended := revocation_ends hs hready hwrite huser hselect
  have hstep := before.step_of_commit (t := (none, now)) hready hwrite
  refine ⟨hs.step _, by rw [hstep]; exact hended, ?_, fun i result raw hi hto => ?_⟩
  · intro j r hr hne hfresh
    rw [before.step_reads_of_ne (t := (none, now)) hne, hfresh] at hr
    cases hr
  · rw [hstep] at hi ⊢
    have hi' : before.world.sessions (some i) = .committed result := by
      simpa only [before.world.set_ne (Option.some_ne_none i)] using hi
    obtain ⟨t, ht, hhash, htu⟩ := (hstored (some i) result hi').row hs.good hto.1
    obtain ⟨t', ht', hhash', hrevoked⟩ := hended t ht htu
    exact ⟨t', ht', hhash'.trans hhash, hrevoked⟩

/-! ### The race -/

/-- A revocation wins every race in which it selects all the unrevoked tokens it commits over, and in
    which no request that had begun when it committed issues a token to the user afterwards. -/
theorem revocation_wins (ports : Ports) (requests : ι → Command) (revocation : Command) {db : Db}
    (hdb : db.Sound) (pre post : List (Option ι × Timestamp)) (now : Timestamp) (u : UserId)
    {before : IdentityTrace (Option ι)}
    (hbefore : before =
      pre.foldl Lib.Traced.step (identityStart ports (race requests revocation) db))
    {write : Db → Option Db} {reply : Reply}
    (hready : before.world.sessions none = .running (.commit write (.ok reply)))
    (hcommits : write before.world.db ≠ none)
    (huser : ∃ r, (before.reads none).head? = some r ∧ revocation.revokes ports r.2 = some u)
    (hselect : SelectsAll u before)
    (hlate : Lib.AllSteps Lib.Traced.step (fun s t => ¬ CommitsLate ports requests u before s t)
      (before.step (none, now)) post) :
    Lib.AllStates Lib.Traced.step (RevocationWon ports requests u before) (before.step (none, now))
      post := by
  have hs := interleaved ports (race requests revocation) hdb pre
  have hstored := stored ports (race requests revocation) hdb pre
  rw [← hbefore] at hs hstored
  have hstart : AfterRevocation ports requests revocation u before (before.step (none, now)) :=
    afterRevocation_start hs hstored hready hcommits huser hselect
  have hall : Lib.AllStates Lib.Traced.step
      (AfterRevocation ports requests revocation u before) (before.step (none, now)) post :=
    Lib.allStates_of_inv (fun s t h hok => h.step t hok) hstart hlate
  exact hall.mono fun s h => h.revocationWon

end After

/-! ### A rotation that the revocation does not see -/

/-- Alice with one refresh token. -/
def aliceSessionDb : Db :=
  { aliceDb with refreshTokens := aliceDb.refreshTokens.put (RefreshToken.issue ⟨10⟩ ⟨1⟩ ⟨1⟩ "first" 0) }

theorem aliceSessionDb_sound : aliceSessionDb.Sound := by
  constructor
  · intro t ht t' ht' _
    rw [List.mem_singleton.mp ht, List.mem_singleton.mp ht']
  · intro t ht hne
    rw [List.mem_singleton.mp ht] at hne
    exact absurd rfl hne

/-- All of Alice's sessions are to be revoked. -/
def revokeAlice : Command := .revokeAllSessions ⟨"1", ⟨1⟩⟩

/-- A login that begins when the revocation is done. -/
def loginAgain : Unit → Command := fun _ => .login "alice@example.org" "secret" ⟨⟨11⟩, "second", "b"⟩

theorem revocation_wins_sample :
    Lib.AllStates Lib.Traced.step
      (RevocationWon plainPorts loginAgain ⟨1⟩ ([(none, 0), (none, 1), (none, 1)].foldl
        Lib.Traced.step (identityStart plainPorts (race loginAgain revokeAlice) aliceSessionDb)))
      (([(none, 0), (none, 1), (none, 1)].foldl Lib.Traced.step
        (identityStart plainPorts (race loginAgain revokeAlice) aliceSessionDb)).step (none, 2))
      [(some (), 3), (some (), 4), (some (), 4)] := by
  refine revocation_wins plainPorts loginAgain revokeAlice aliceSessionDb_sound
    [(none, 0), (none, 1), (none, 1)] [(some (), 3), (some (), 4), (some (), 4)] 2 ⟨1⟩ rfl rfl
    ?_ ?_ ?_ ?_
  · exact Option.some_ne_none _
  · exact ⟨_, rfl, rfl⟩
  · rintro r hr t ht - -
    cases hr
    rw [List.mem_singleton.mp ht]
    rfl
  · -- the login had read nothing when the revocation committed
    have hfresh : ∀ s t, ¬ CommitsLate plainPorts loginAgain ⟨1⟩
        ([(none, 0), (none, 1), (none, 1)].foldl Lib.Traced.step
          (identityStart plainPorts (race loginAgain revokeAlice) aliceSessionDb)) s t := by
      rintro s t ⟨i, -, -, -, -, -, -, hread, -⟩
      exact hread rfl
    exact ⟨hfresh _ _, hfresh _ _, hfresh _ _, trivial⟩

/-- A rotation of her token. -/
def rotateFirst : Unit → Command := fun _ => .refreshAccessToken "first" ⟨⟨11⟩, "second", "b"⟩

/-- The rotation reads, the revocation reads and selects. -/
def beforeRevocation : IdentityTrace (Option Unit) :=
  [(some (), 1), (some (), 2), (some (), 2), (none, 3), (none, 3), (none, 4)].foldl Lib.Traced.step
    (identityStart plainPorts (race rotateFirst revokeAlice) aliceSessionDb)

/-- The revocation commits, then the rotation, and its new token is active. -/
theorem rotation_escapes_revocation : ¬ ∀ (ports : Ports) (requests : Unit → Command)
    (revocation : Command) (db : Db) (pre post : List (Option Unit × Timestamp)) (now : Timestamp)
    (u : UserId) (before s : IdentityTrace (Option Unit)) (write : Db → Option Db) (reply : Reply),
    db.Sound →
    before = pre.foldl Lib.Traced.step (identityStart ports (race requests revocation) db) →
    before.world.sessions none = .running (.commit write (.ok reply)) →
    write before.world.db ≠ none →
    (∃ r, (before.reads none).head? = some r ∧ revocation.revokes ports r.2 = some u) →
    s = post.foldl Lib.Traced.step (before.step (none, now)) →
    (∀ j, ∃ result, s.world.sessions j = .committed result) →
    RevocationWon ports requests u before s := by
  intro h
  have hwon := h plainPorts rotateFirst revokeAlice aliceSessionDb
    [(some (), 1), (some (), 2), (some (), 2), (none, 3), (none, 3), (none, 4)] [(some (), 6)] 5 ⟨1⟩
    beforeRevocation _ _ .done aliceSessionDb_sound rfl rfl (Option.some_ne_none _) ⟨_, rfl, rfl⟩ rfl
    (by rintro (_ | _) <;> exact ⟨_, rfl⟩)
  have hissued : ∀ session, ToBeEnded plainPorts rotateFirst ⟨1⟩ beforeRevocation ()
      (.ok (.refreshed session)) "second" :=
    fun session => ⟨.rotation rfl rfl, fun _ => ⟨_, _, rfl⟩⟩
  refine hwon () _ "second" rfl (hissued _) (RefreshToken.issue ⟨11⟩ ⟨1⟩ ⟨1⟩ "second" 2) ?_ rfl 6 (by decide)
  exact List.mem_cons_of_mem _ (List.mem_cons_self ..)

end GeoRisk.Identity
