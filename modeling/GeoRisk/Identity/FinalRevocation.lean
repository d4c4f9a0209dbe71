import Mathlib
import GeoRisk.Identity.Sessions

/-! A bulk revocation is final. Password reset and change, suspension, deactivation and the request to
    end all sessions revoke the user's tokens and begin a new generation; nothing that follows in a
    sequential history, not even a reactivation or a new login, takes either back. -/

namespace GeoRisk.Identity

variable {ports : Ports}

/-- The user whose sessions the command is to end. -/
def Command.revokes (ports : Ports) (db : Db) : Command → Option UserId
  | .suspendUser _ userId _ _ | .deactivateUser _ userId _ _ | .changePassword userId _ _ _
  | .revokeAllSessions userId => some userId.id
  | .resetPassword resetToken _ _ =>
    (db.getResetByTokenHash (ports.hashToken resetToken)).map (·.userId)
  | _ => none

/-- The user that was loaded is the one whose sessions the command, at its first read, is to end. -/
theorem Revoking.first {command : Command} {reads : List (Timestamp × Db)} {loaded user model : User}
    {more : List Write} {u : UserId} (h : Revoking ports command reads loaded user model more)
    (hfirst : ∀ r ∈ reads.head?, command.revokes ports r.2 = some u) : loaded.id = u := by
  have hof : ∀ {db : Db} {id : UserId}, db.users.get id = some loaded → id = u → loaded.id = u :=
    fun hload hid => (Lib.Table.key_of_get hload).trans hid
  cases h with
  | suspendUser hload | deactivateUser hload | changePassword hload | revokeAllSessions hload =>
    exact hof hload (Option.some.inj (hfirst _ rfl))
  | resetPassword _ htoken _ hload =>
    have hrevokes := hfirst _ rfl
    rw [Command.revokes, htoken] at hrevokes
    exact hof hload (Option.some.inj hrevokes)

/-- On its own, it saves the user over the row that it has loaded. -/
theorem Revoking.alone {command : Command} {reads : List (Timestamp × Db)} {loaded user model : User}
    {more : List Write} {db : Db} {u : UserId}
    (h : Revoking ports command reads loaded user model more) (hreads : ∀ r ∈ reads, r.2 = db)
    (hrevokes : command.revokes ports db = some u) :
    loaded.id = u ∧ db.users.get u = some loaded ∧ model = loaded := by
  have hid := h.first fun r hr => by rw [hreads r (List.mem_of_mem_head? hr)]; exact hrevokes
  have hedit : Edit ports command (reads ++ [(0, db)]) loaded user := .revoking h
  obtain ⟨r, hr, hsave⟩ := h.saved
  obtain ⟨hload, hmodel⟩ := hedit.alone ⟨r, List.mem_append_left _ hr, hsave⟩ fun r hr => by
    rcases List.mem_append.mp hr with hr | hr
    · exact hreads r hr
    · rw [List.mem_singleton.mp hr]
  exact ⟨hid, hid ▸ hload, hmodel⟩

/-- The tokens of a revoking commit: what was selected is revoked, and nothing is added. -/
theorem revoking_tokens {command : Command} {reads : List (Timestamp × Db)} {loaded user model : User}
    {more events : List Write} {models : List RefreshToken} {now : Timestamp} {db db' : Db}
    (hrevoking : Revoking ports command reads loaded user model more)
    (hevents : ∀ w ∈ events, Write.IsEvent w) (hmodels : ∀ m ∈ models, m.revokedAt = none)
    (h : flush (.updateUser model user :: more ++ revokeModels models now ++ events) db = some db') :
    (∀ m ∈ models, ∀ t', db'.refreshTokens.get m.id = some t' → t'.revokedAt ≠ none) ∧
      ∀ id t', db'.refreshTokens.get id = some t' → ∃ t, db.refreshTokens.get id = some t := by
  have hfirst : ∀ w ∈ Write.updateUser model user :: more, ∀ tokens, w.onTokens tokens = some tokens := by
    rcases hrevoking.extra with rfl | ⟨used, token, now, rfl⟩ <;> simp [Write.onTokens]
  have htokens := flush_tokens h
  rw [List.foldlM_append, List.foldlM_append, foldlM_skip hfirst] at htokens
  obtain ⟨tokens₁, h₁, h₂⟩ := Option.bind_eq_some_iff.mp htokens
  change (revokeModels models now).foldlM Write.onTokens db.refreshTokens = some tokens₁ at h₁
  rw [foldlM_skip fun w hw => (hevents w hw).skips.2.1] at h₂
  cases h₂
  refine ⟨revokeModels_revokes hmodels h₁, fun id t' ht' => ?_⟩
  refine foldlM_onTokens_keys (fun w hw t => ?_) h₁ ht'
  obtain ⟨model, -, rfl⟩ := mem_revokeModels hw
  simp

/-- The users of a revoking commit. -/
theorem revoking_users {command : Command} {reads : List (Timestamp × Db)} {loaded user model : User}
    {more events : List Write} {models : List RefreshToken} {now : Timestamp} {db db' : Db}
    (hrevoking : Revoking ports command reads loaded user model more)
    (hevents : ∀ w ∈ events, Write.IsEvent w)
    (h : flush (.updateUser model user :: more ++ revokeModels models now ++ events) db = some db') :
    ∃ current, db.users.get model.id = some current ∧
      db'.users = db.users.put (model.flush user current) := by
  rw [List.append_assoc, List.cons_append] at h
  have hrest : ∀ w ∈ more ++ (revokeModels models now ++ events),
      ∀ users, w.onUsers users = some users := by
    intro w hw
    rcases List.mem_append.mp hw with hw | hw
    · rcases hrevoking.extra with rfl | ⟨used, token, now, rfl⟩
      · cases hw
      · rw [List.mem_singleton.mp hw]
        exact fun _ => rfl
    · rcases List.mem_append.mp hw with hw | hw
      · obtain ⟨model, -, rfl⟩ := mem_revokeModels hw
        exact fun _ => rfl
      · exact (hevents w hw).skips.1
  exact flush_updateUser hrest h

/-- When the tokens selected of a user are revoked and nothing is added, all its tokens are. -/
theorem selected_revoked {db db' : Db} {u : UserId}
    (hlater : TokensLater db.refreshTokens db'.refreshTokens)
    (hrevoked : ∀ m ∈ db.activeTokensOf u, ∀ t', db'.refreshTokens.get m.id = some t' →
      t'.revokedAt ≠ none)
    (hkeys : ∀ id t', db'.refreshTokens.get id = some t' → ∃ t, db.refreshTokens.get id = some t) :
    ∀ t' ∈ db'.refreshTokens.rows, t'.userId = u → t'.revokedAt ≠ none := by
  intro t' ht' hu
  have hget' := Lib.Table.get_of_mem ht'
  obtain ⟨t, ht⟩ := hkeys t'.id t' hget'
  obtain ⟨t'', ht'', -, huser, hstays⟩ := hlater t'.id t ht
  rw [hget'] at ht''
  cases ht''
  by_cases hnone : t.revokedAt = none
  · have hkey : t.id = t'.id := Lib.Table.key_of_get ht
    have hactive : t ∈ db.activeTokensOf u := List.mem_filter.mpr
      ⟨Lib.Table.mem_of_get ht, decide_eq_true ⟨huser.symm.trans hu, hnone⟩⟩
    exact hrevoked t hactive t' (by rw [hkey]; exact hget')
  · exact hstays hnone

/-- What a bulk revocation leaves: the user in its next generation, and no unrevoked token of it. -/
theorem revokes_spec {command : Command} {now : Timestamp} {db : Db} {u : UserId} {reply : Reply}
    (hrevokes : command.revokes ports db = some u)
    (hok : (command.exec ports now db).2 = some (.ok reply)) :
    (∀ t ∈ (command.exec ports now db).1.refreshTokens.rows, t.userId = u → t.revokedAt ≠ none) ∧
      ∃ v v', db.users.get u = some v ∧ (command.exec ports now db).1.users.get u = some v' ∧
        v.tokenGeneration < v'.tokenGeneration := by
  have h := exec_cases ports command now db
  generalize command.exec ports now db = out at h hok ⊢
  cases h with
  | refused => cases hok
  | rolledBack hresult =>
    -- what is answered without a commit is no revocation
    cases hok
    cases reply with
    | loggedOut =>
      obtain ⟨_, _, _, rfl⟩ := hresult
      cases hrevokes
    | done =>
      obtain ⟨_, _, rfl⟩ := hresult
      cases hrevokes
    | _ => exact hresult.elim
  | committed hreads hcommit hwrite =>
    obtain ⟨ws, rfl, hwork⟩ := hcommit
    have hlater := hwork.tokensLater (.alone fun r hr => by rw [hreads r hr]) hwrite
    cases hwork with
    | @revoking _ reads loaded user model more now' db₀ events reply' hrevoking hevents hreply =>
      have hdb₀ : (now', db₀) = (now, db) := hreads _ (List.mem_append_right _ (List.mem_cons_self ..))
      cases hdb₀
      have hreads' : ∀ r ∈ reads, r.2 = db :=
        fun r hr => by rw [hreads r (List.mem_append_left _ hr)]
      obtain ⟨hid, hload, rfl⟩ := hrevoking.alone hreads' hrevokes
      obtain ⟨huser, _, hgen⟩ := hrevoking.generation
      obtain ⟨hrevoked, hkeys⟩ := revoking_tokens hrevoking hevents activeTokensOf_unrevoked hwrite
      rw [huser, hid] at hrevoked
      refine ⟨selected_revoked hlater hrevoked hkeys, model, ?_⟩
      · obtain ⟨current, hcurrent, hput⟩ := revoking_users hrevoking hevents hwrite
        rw [hid, hload] at hcurrent
        cases hcurrent
        refine ⟨model.flush user model, hload, ?_, ?_⟩
        · rw [hput, ← hid]
          exact Lib.Table.get_put_self ..
        · rw [User.flush_loaded]
          change model.tokenGeneration < user.tokenGeneration
          omega
    | _ => cases hrevokes

/-- Once a bulk revocation of a user has committed, every session issued to the user before it is
    refused in every later state. -/
theorem revocation_final (ports : Ports) (hports : ports.RoundTrip) {db : Db} (hdb : db.Sound)
    (before after : List (Command × Timestamp)) (command : Command) (now : Timestamp) (u : UserId)
    (reply : Reply) (hrevokes : command.revokes ports (history ports db before).db = some u)
    (hok : (command.exec ports now (history ports db before).db).2 = some (.ok reply)) :
    ∀ i ∈ (history ports db before).issued, i.userId = u → ∀ moment,
      ¬ RefreshAccepted ports (history ports db (before ++ (command, now) :: after)).db moment
          i.refreshToken ∧
        ¬ AccessAccepted ports (history ports db (before ++ (command, now) :: after)).db moment
          i.accessToken := by
  intro i hi hiu moment
  have hinv := history_inv ports hdb before
  have hrun : history ports db (before ++ (command, now) :: after) =
      after.foldl (History.step ports) ((history ports db before).step ports (command, now)) := by
    rw [history, List.foldl_append, List.foldl_cons, history]
  have hlater := exec_later ports command now (history ports db before).db
  obtain ⟨hrevoked, v, v', hv, hv', hgen⟩ := revokes_spec hrevokes hok
  -- the revocation itself ends both halves of the session
  have hdead : Dead ports (command.exec ports now (history ports db before).db).1 i := by
    obtain ⟨t, ht, hhash, huser⟩ := (hinv.stored i hi).later hlater
    obtain ⟨p, w, htoken, -, hsub, -, hw, hle, -⟩ := hinv.signed i hi
    rw [hiu, hv] at hw
    cases hw
    refine ⟨⟨t, ht, hhash, hrevoked t ht (huser.trans hiu)⟩, p, v', htoken, ?_, by omega⟩
    rw [hsub, hiu]
    exact hv'
  have hsound := (history_inv ports hdb (before ++ (command, now) :: after)).sound
  rw [hrun] at hsound ⊢
  have hafter := history_later ports after ((history ports db before).step ports (command, now))
  exact (hdead.later hafter).refused hports hsound moment

/-- Alice logs in, and then ends all her sessions: a moment later, the one she had is refused. -/
theorem revocation_final_sample :
    ∃ i ∈ (history tallyPorts aliceDb
      [(.login "alice@example.org" "secret" ⟨⟨10⟩, "first", "a"⟩, 0)]).issued, i.userId = ⟨1⟩ ∧
      ¬ RefreshAccepted tallyPorts (history tallyPorts aliceDb
        ([(.login "alice@example.org" "secret" ⟨⟨10⟩, "first", "a"⟩, 0)] ++
          (.revokeAllSessions ⟨"1", ⟨1⟩⟩, 1) :: [])).db 2 i.refreshToken ∧
      ¬ AccessAccepted tallyPorts (history tallyPorts aliceDb
        ([(.login "alice@example.org" "secret" ⟨⟨10⟩, "first", "a"⟩, 0)] ++
          (.revokeAllSessions ⟨"1", ⟨1⟩⟩, 1) :: [])).db 2 i.accessToken := by
  have hissued : ∃ i ∈ (history tallyPorts aliceDb
      [(.login "alice@example.org" "secret" ⟨⟨10⟩, "first", "a"⟩, 0)]).issued, i.userId = ⟨1⟩ :=
    ⟨_, List.mem_cons_self, rfl⟩
  obtain ⟨i, hi, huser⟩ := hissued
  exact ⟨i, hi, huser, revocation_final tallyPorts tallyPorts_roundTrip
    aliceDb_sound _ []
    (.revokeAllSessions ⟨"1", ⟨1⟩⟩) 1 ⟨1⟩ .done rfl rfl i hi huser 2⟩

end GeoRisk.Identity
