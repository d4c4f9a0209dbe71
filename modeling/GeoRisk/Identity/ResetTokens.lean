import Mathlib
import GeoRisk.Identity.FinalRevocation
import GeoRisk.Identity.Interleaving

/-! Reset links. A password reset marks the token it redeems as used and leaves the other reset tokens
    of the user alone, so each of them can still be redeemed, once, until it expires. Whoever looks a
    token up after it was redeemed is refused, in every interleaving: the mark stays. -/

namespace GeoRisk.Identity

/-! ### Reset tokens over time -/

abbrev ResetTable := Lib.Table (@OneTimeToken.id PasswordResetTokenId)

/-- No two reset tokens share a hash. -/
def ResetsUnique (tokens : ResetTable) : Prop :=
  ∀ t ∈ tokens.rows, ∀ t' ∈ tokens.rows, t.tokenHash = t'.tokenHash → t = t'

/-- A reset token keeps its hash, and stays used. -/
def ResetsLater (tokens tokens' : ResetTable) : Prop :=
  Lib.Table.Kept (fun t t' => t'.tokenHash = t.tokenHash ∧ (t.usedAt ≠ none → t'.usedAt ≠ none))
    tokens tokens'

/-- Of the reset tokens it marks some as used: they are by now, if the update leaves that column
    alone. -/
def Write.MarksUsed (tokens : ResetTable) : Write → Prop
  | .updateReset model token =>
    token.tokenHash = model.tokenHash ∧ token.usedAt ≠ none ∧
      (token.usedAt = model.usedAt → ∃ t, tokens.get model.id = some t ∧ t.usedAt ≠ none)
  | _ => True

/-- It writes other tables. -/
def Write.SkipsResets (w : Write) : Prop := ∀ tokens, w.onResets tokens = some tokens

section Resets

variable {tokens tokens' tokens'' : ResetTable} {w : Write} {ws : List Write}

theorem ResetsLater.refl (tokens : ResetTable) : ResetsLater tokens tokens :=
  Lib.Table.Kept.refl (fun _ => ⟨rfl, id⟩) tokens

theorem ResetsLater.trans (h : ResetsLater tokens tokens') (h' : ResetsLater tokens' tokens'') :
    ResetsLater tokens tokens'' := by
  refine Lib.Table.Kept.trans ?_ h h'
  rintro a b c ⟨hhash, hused⟩ ⟨hhash', hused'⟩
  exact ⟨hhash'.trans hhash, fun hu => hused' (hused hu)⟩

/-- The row that marking a token as used leaves. -/
theorem flush_marksUsed {model token current : PasswordResetToken}
    (h : (Write.updateReset model token).MarksUsed tokens)
    (hget : tokens.get model.id = some current) :
    (model.flush token current).tokenHash = current.tokenHash ∧
      (model.flush token current).usedAt ≠ none := by
  obtain ⟨hhash, hused, hby⟩ := h
  refine ⟨by simp [OneTimeToken.flush, hhash], ?_⟩
  simp only [OneTimeToken.flush, Lib.flushed]
  split
  · next heq =>
    obtain ⟨t, ht, hthere⟩ := hby heq
    rw [hget] at ht
    cases ht
    exact hthere
  · exact hused

theorem Write.MarksUsed.later (hw : w.MarksUsed tokens) (hlater : ResetsLater tokens tokens') :
    w.MarksUsed tokens' := by
  cases w with
  | updateReset model token =>
    obtain ⟨hhash, hused, hby⟩ := hw
    refine ⟨hhash, hused, fun heq => ?_⟩
    obtain ⟨t, ht, hthere⟩ := hby heq
    obtain ⟨t', ht', -, hstays⟩ := hlater _ t ht
    exact ⟨t', ht', hstays hthere⟩
  | _ => trivial

theorem Write.SkipsResets.marksUsed (h : w.SkipsResets) : w.MarksUsed tokens := by
  cases w with
  | updateReset model token =>
    have hnone := h .empty
    rw [Write.onResets, show Lib.Table.empty.get model.id = none from rfl] at hnone
    cases hnone
  | _ => trivial

theorem onResets_later (hw : w.MarksUsed tokens) (hunique : ResetsUnique tokens)
    (h : w.onResets tokens = some tokens') :
    ResetsUnique tokens' ∧ ResetsLater tokens tokens' := by
  cases w with
  | insertReset token =>
    simp only [Write.onResets] at h
    split at h
    · cases h
    next hfree =>
    cases h
    obtain ⟨hid, hhash⟩ := not_or.mp hfree
    have hother : ∀ t ∈ tokens.rows, t.tokenHash ≠ token.tokenHash := by
      intro t ht heq
      exact hhash (List.find?_isSome.mpr ⟨t, ht, by simpa using heq⟩)
    refine ⟨?_, Lib.Table.kept_put (fun _ => ⟨rfl, id⟩) fun old hold => ?_⟩
    · intro t ht t' ht' heq
      rcases Lib.Table.mem_put_rows.mp ht with rfl | ⟨hold, _⟩ <;>
        rcases Lib.Table.mem_put_rows.mp ht' with rfl | ⟨hold', _⟩
      · rfl
      · exact absurd heq.symm (hother t' hold')
      · exact absurd heq (hother t hold)
      · exact hunique t hold t' hold' heq
    · exact absurd (by rw [hold]; rfl) hid
  | updateReset model token =>
    obtain ⟨current, hcurrent, rfl⟩ := Option.map_eq_some_iff.mp h
    obtain ⟨hhash, hused⟩ := flush_marksUsed hw hcurrent
    have hid : (model.flush token current).id = current.id := rfl
    generalize model.flush token current = row at hid hhash hused ⊢
    have hmem := Lib.Table.mem_of_get hcurrent
    refine ⟨?_, Lib.Table.kept_put (fun _ => ⟨rfl, id⟩) fun old hold => ?_⟩
    · intro t ht t' ht' heq
      rcases Lib.Table.mem_put_rows.mp ht with rfl | ⟨hold, hne⟩ <;>
        rcases Lib.Table.mem_put_rows.mp ht' with rfl | ⟨hold', hne'⟩
      · rfl
      · rw [hunique t' hold' current hmem (heq.symm.trans hhash)] at hne'
        exact absurd hid.symm hne'
      · rw [hunique t hold current hmem (heq.trans hhash)] at hne
        exact absurd hid.symm hne
      · exact hunique t hold t' hold' heq
    · rw [hid, Lib.Table.get_of_mem hmem] at hold
      cases hold
      exact ⟨hhash, fun _ => hused⟩
  | _ =>
    cases h
    exact ⟨hunique, .refl _⟩

theorem foldlM_onResets_later (hws : ∀ w ∈ ws, w.MarksUsed tokens) (hunique : ResetsUnique tokens)
    (h : ws.foldlM Write.onResets tokens = some tokens') :
    ResetsUnique tokens' ∧ ResetsLater tokens tokens' := by
  induction ws generalizing tokens with
  | nil =>
    cases h
    exact ⟨hunique, .refl _⟩
  | cons w ws ih =>
    obtain ⟨tokens₁, h₁, h₂⟩ := Option.bind_eq_some_iff.mp h
    obtain ⟨hunique₁, hlater₁⟩ := onResets_later (hws w (List.mem_cons_self ..)) hunique h₁
    obtain ⟨hunique', hlater'⟩ :=
      ih (fun w' hw' => (hws w' (List.mem_cons_of_mem _ hw')).later hlater₁) hunique₁ h₂
    exact ⟨hunique', hlater₁.trans hlater'⟩

end Resets

section Work

variable {ports : Ports} {command : Command} {reads : List (Timestamp × Db)} {ws : List Write}
  {result : Except IdentityError Reply} {db db' : Db}

theorem revokeModels_skipsResets {models : List RefreshToken} {now : Timestamp} :
    ∀ w ∈ revokeModels models now, w.SkipsResets := by
  intro w hw
  obtain ⟨model, -, rfl⟩ := mem_revokeModels hw
  exact fun _ => rfl

/-- The reset tokens of each read, and of `db`, came later than those of the reads before. -/
structure ResetsLed (reads : List (Timestamp × Db)) (db : Db) : Prop where
  ordered : reads.Pairwise fun r r' =>
    ResetsLater r.2.passwordResetTokens r'.2.passwordResetTokens
  later : ∀ r ∈ reads, ResetsLater r.2.passwordResetTokens db.passwordResetTokens

/-- A token that was looked up is saved over a row with its hash. -/
theorem savedReset_marksUsed {d d' : Db} {token used : PasswordResetToken}
    (hmem : token ∈ d.passwordResetTokens.rows)
    (hsave : d'.passwordResetTokens.get token.id = some used)
    (hloaded : ResetsLater d.passwordResetTokens d'.passwordResetTokens)
    (hsaved : ResetsLater d'.passwordResetTokens db.passwordResetTokens) (now : Timestamp) :
    (Write.updateReset used (token.markUsed now)).MarksUsed db.passwordResetTokens := by
  obtain ⟨used', hused', hhash, -⟩ := hloaded _ _ (Lib.Table.get_of_mem hmem)
  rw [hsave] at hused'
  cases hused'
  refine ⟨hhash.symm, by simp [OneTimeToken.markUsed], fun heq => ?_⟩
  rw [← Lib.Table.key_of_get hsave] at hsave
  obtain ⟨t, ht, -, hstays⟩ := hsaved _ used hsave
  exact ⟨t, ht, hstays (by rw [← heq]; simp [OneTimeToken.markUsed])⟩

/-- The commit of a password reset marks the token as used, and writes no other reset token. -/
theorem Revoking.resets {loaded user model : User} {extra : List Write}
    (h : Revoking ports command reads loaded user model extra) {last : Timestamp × Db}
    (hreads : ResetsLed (reads ++ [last]) db) :
    extra = [] ∨ ∃ used token, extra = [.updateReset used token] ∧
      (Write.updateReset used token).MarksUsed db.passwordResetTokens := by
  cases h with
  | @resetPassword _ _ _ now₁ d₁ now₂ d₂ now₃ d₃ now₄ d₄ token _ _ _ _ htoken _ _ _ hused =>
    have hloaded := List.rel_of_pairwise_cons hreads.ordered (show (now₄, d₄) ∈ _ by simp)
    have hsaved := hreads.later (now₄, d₄) (by simp)
    exact Or.inr ⟨_, _, rfl,
      savedReset_marksUsed (List.mem_of_find?_eq_some htoken) hused hloaded hsaved now₃⟩
  | _ => exact Or.inl rfl

theorem Work.marksUsed (h : Work ports command reads ws result) (hreads : ResetsLed reads db) :
    ∀ w ∈ ws, w.MarksUsed db.passwordResetTokens := by
  have hevents : ∀ {events : List Write}, (∀ w ∈ events, Write.IsEvent w) →
      ∀ w ∈ events, w.MarksUsed db.passwordResetTokens :=
    fun hev w hw => Write.SkipsResets.marksUsed (hev w hw).skips.2.2.1
  have hdenies : ∀ {entry : List Write}, (∀ w ∈ entry, Write.Denies w) →
      ∀ w ∈ entry, w.MarksUsed db.passwordResetTokens :=
    fun hentry w hw => Write.SkipsResets.marksUsed (hentry w hw).skips.2.2
  have hmodels : ∀ {models : List RefreshToken} {now : Timestamp},
      ∀ w ∈ revokeModels models now, w.MarksUsed db.passwordResetTokens :=
    fun w hw => (revokeModels_skipsResets w hw).marksUsed
  cases h with
  | login _ _ _ _ hev => simpa [Write.MarksUsed] using hevents hev
  | rotate => simp [Write.MarksUsed, tokenEvent]
  | reuse _ _ hev =>
    exact List.forall_mem_append.mpr ⟨hmodels, hevents (by simpa using hev)⟩
  | logout _ _ _ hev hentry =>
    exact List.forall_mem_cons.mpr ⟨trivial, List.forall_mem_cons.mpr
      ⟨Write.SkipsResets.marksUsed hev.skips.2.2.1, hdenies hentry⟩⟩
  | logoutAccess _ hentry => exact hdenies hentry
  | @revoking _ _ _ _ _ extra _ _ _ _ hrevoking hev =>
    have hextra : ∀ w ∈ extra, w.MarksUsed db.passwordResetTokens := by
      rcases hrevoking.resets hreads with rfl | ⟨used, token, rfl, hmarks⟩
      · simp
      · simpa using hmarks
    exact List.forall_mem_append.mpr ⟨List.forall_mem_append.mpr
      ⟨List.forall_mem_cons.mpr ⟨trivial, hextra⟩, hmodels⟩, hevents hev⟩
  | loginFailed hev | inviteUser hev | acceptInvitation _ _ _ _ _ hev
  | changeUserRole _ _ _ _ _ _ hev | reactivateUser _ _ _ _ hev | requestPasswordReset _ hev
  | createTenant hev | createOwner hev =>
    simpa [Write.MarksUsed] using Write.SkipsResets.marksUsed hev.skips.2.2.1

/-- What a commit does to the reset tokens. -/
theorem Work.resetsLater (h : Work ports command reads ws result) (hreads : ResetsLed reads db)
    (hunique : ResetsUnique db.passwordResetTokens) (hflush : flush ws db = some db') :
    ResetsUnique db'.passwordResetTokens ∧
      ResetsLater db.passwordResetTokens db'.passwordResetTokens :=
  foldlM_onResets_later (h.marksUsed hreads) hunique (flush_resets hflush)

/-- The token with this hash has been used. -/
def Db.ResetUsed (db : Db) (tokenHash : String) : Prop :=
  ∃ t ∈ db.passwordResetTokens.rows, t.tokenHash = tokenHash ∧ t.usedAt ≠ none

theorem Db.ResetUsed.later {tokenHash : String} (h : db.ResetUsed tokenHash)
    (hlater : ResetsLater db.passwordResetTokens db'.passwordResetTokens) :
    db'.ResetUsed tokenHash := by
  obtain ⟨t, ht, hhash, hused⟩ := h
  obtain ⟨t', ht', hhash', hstays⟩ := Lib.Table.Kept.row hlater ht
  exact ⟨t', ht', hhash'.trans hhash, hstays hused⟩

/-- A committed reset has found its token unused, and leaves it used. -/
theorem Work.resets {resetToken newPassword salt : String} {reply : Reply}
    (h : Work ports (.resetPassword resetToken newPassword salt) reads ws (.ok reply))
    (hreads : ResetsLed reads db)
    (hunique : ∀ r ∈ reads, ResetsUnique r.2.passwordResetTokens)
    (hflush : flush ws db = some db') :
    (∃ r ∈ reads, ¬ r.2.ResetUsed (ports.hashToken resetToken)) ∧
      db'.ResetUsed (ports.hashToken resetToken) := by
  have hmarks := h.marksUsed hreads
  cases h with
  | @revoking _ _ loaded user model _ now db₀ events _ hrevoking hevents =>
    cases hrevoking with
    | @resetPassword _ _ _ now₁ db₁ now₂ db₂ now₃ db₃ now₄ db₄ token _ _ used _ htoken hvalid _ _
        hused =>
      have hr₁ : (now₁, db₁) ∈ [(now₁, db₁), (now₂, db₂), (now₃, db₃), (now₄, db₄)] ++
          [(now, db₀)] := List.mem_cons_self ..
      have hmem : token ∈ db₁.passwordResetTokens.rows := List.mem_of_find?_eq_some htoken
      have hhash : token.tokenHash = ports.hashToken resetToken := by
        simpa using List.find?_some htoken
      have hunused : token.usedAt = none := by
        unfold OneTimeToken.isValid at hvalid
        simpa using (Bool.and_eq_true_iff.mp hvalid).1
      refine ⟨⟨_, hr₁, ?_⟩, ?_⟩
      · rintro ⟨t, ht, heq, hset⟩
        rw [hunique _ hr₁ t ht token hmem (heq.trans hhash.symm)] at hset
        exact hset hunused
      · -- the second write marks the row of the token
        have hresets := flush_resets hflush
        have hmark := hmarks (.updateReset used (token.markUsed now₃)) (by simp)
        rw [List.append_assoc] at hresets
        change (Write.updateReset used (token.markUsed now₃) :: (_ ++ events)).foldlM Write.onResets
          db.passwordResetTokens = _ at hresets
        obtain ⟨tokens, h₁, hresets⟩ := Option.bind_eq_some_iff.mp hresets
        rw [foldlM_skip (List.forall_mem_append.mpr
          ⟨revokeModels_skipsResets, fun w hw => (hevents w hw).skips.2.2.1⟩)] at hresets
        obtain ⟨current, hcurrent, rfl⟩ := Option.map_eq_some_iff.mp h₁
        obtain ⟨hsame, hset⟩ := flush_marksUsed hmark hcurrent
        obtain ⟨current', hcurrent', hkept, -⟩ :=
          hreads.later _ hr₁ token.id token (Lib.Table.get_of_mem hmem)
        have hkey : used.id = token.id := Lib.Table.key_of_get hused
        rw [hkey, hcurrent'] at hcurrent
        cases hcurrent
        refine ⟨used.flush (token.markUsed now₃) current, ?_, (hsame.trans hkept).trans hhash, hset⟩
        rw [← Option.some.inj hresets]
        exact Lib.Table.mem_put_rows.mpr (Or.inl rfl)

end Work

/-! ### All interleavings -/

section Interleavings

variable {ι : Type} {ports : Ports} {commands : ι → Command} {s : IdentityTrace ι}

/-- Session `i` is a password reset that has committed, for the token with this hash. -/
def Redeemed (ports : Ports) (commands : ι → Command) (s : IdentityTrace ι) (i : ι)
    (tokenHash : String) : Prop :=
  ∃ raw newPassword salt reply, commands i = .resetPassword raw newPassword salt ∧
    ports.hashToken raw = tokenHash ∧ s.world.sessions i = .committed (.ok reply)

/-- Rows stay, and reset tokens keep what they keep over time. -/
structure ResetsOnward (d d' : Db) : Prop where
  grows : d.Grows d'
  resets : ResetsLater d.passwordResetTokens d'.passwordResetTokens

theorem ResetsOnward.refl (d : Db) : ResetsOnward d d := ⟨.refl d, .refl _⟩

theorem ResetsOnward.trans {d d₁ d' : Db} (h : ResetsOnward d d₁) (h' : ResetsOnward d₁ d') :
    ResetsOnward d d' :=
  ⟨h.grows.trans h'.grows, h.resets.trans h'.resets⟩

/-- What holds in every interleaving: hashes are unique, and the tokens that were read are kept. -/
abbrev ResetsTracked (ports : Ports) (commands : ι → Command) (s : IdentityTrace ι) : Prop :=
  s.Tracked (fun i => CommitsWork ports (commands i)) (fun i => Quiet (commands i))
    (fun d => ResetsUnique d.passwordResetTokens) ResetsOnward

theorem ResetsTracked.led (h : ResetsTracked ports commands s) (i : ι) :
    ResetsLed (s.reads i) s.world.db :=
  ⟨(h.ordered i).imp ResetsOnward.resets, fun r hr => (h.reads i r hr).2.resets⟩

theorem ResetsTracked.work (h : ResetsTracked ports commands s) {i : ι} {write : Db → Option Db}
    {result : Except IdentityError Reply}
    (hi : s.world.sessions i = .running (.commit write result)) :
    ∃ ws, write = flush ws ∧ Work ports (commands i) (s.reads i) ws result := by
  have hcommit : CommitsWork ports (commands i) (s.reads i) write result := h.ending i _ hi
  exact hcommit ((h.ordered i).imp ResetsOnward.grows)

theorem commitsWork_resets (ports : Ports) (commands : ι → Command) :
    Lib.Traced.Preserves (fun i => CommitsWork ports (commands i))
      (fun d => ResetsUnique d.passwordResetTokens) ResetsOnward := by
  intro i reads write result d d' hcommit hreads hordered hd hwrite
  obtain ⟨ws, rfl, hwork⟩ := hcommit (hordered.imp ResetsOnward.grows)
  have hled : ResetsLed reads d :=
    ⟨hordered.imp ResetsOnward.resets, fun r hr => (hreads r hr).2.resets⟩
  obtain ⟨hunique, hlater⟩ := hwork.resetsLater hled hd hwrite
  exact ⟨hunique, flush_grows hwrite, hlater⟩

/-- The tokens redeemed so far are used. -/
def RedeemedUsed (ports : Ports) (commands : ι → Command) (s : IdentityTrace ι) : Prop :=
  ∀ i tokenHash, Redeemed ports commands s i tokenHash → s.world.db.ResetUsed tokenHash

variable [DecidableEq ι]

theorem ResetsTracked.evolves (h : ResetsTracked ports commands s) (t : ι × Timestamp) :
    ResetsUnique (s.step t).world.db.passwordResetTokens ∧
      ResetsOnward s.world.db (s.step t).world.db :=
  Lib.Traced.Tracked.evolves h .refl (commitsWork_resets ports commands) t

theorem ResetsTracked.step (h : ResetsTracked ports commands s) (t : ι × Timestamp) :
    ResetsTracked ports commands (s.step t) :=
  Lib.Traced.Tracked.step h .refl .trans (commitsWork_resets ports commands) t

/-- A reset that is redeemed by this step has found its token unused, and leaves it used. -/
theorem ResetsTracked.redeems (h : ResetsTracked ports commands s) {t : ι × Timestamp} {i : ι}
    {tokenHash : String} (hbefore : ¬ Redeemed ports commands s i tokenHash)
    (hafter : Redeemed ports commands (s.step t) i tokenHash) :
    (∃ r ∈ s.reads i, ¬ r.2.ResetUsed tokenHash) ∧ (s.step t).world.db.ResetUsed tokenHash := by
  obtain ⟨raw, newPassword, salt, reply, hcommand, rfl, hi⟩ := hafter
  have hnot : s.world.sessions i ≠ .committed (.ok reply) := fun hi =>
    hbefore ⟨raw, newPassword, salt, reply, hcommand, rfl, hi⟩
  rw [Lib.Traced.step_world] at hi ⊢
  rcases s.world.step_commit_or_quiet t with ⟨write, result, db', hrun, hwrite, hstep⟩ | ⟨-, hsame⟩
  · rw [hstep] at hi ⊢
    rcases eq_or_ne i t.1 with rfl | hne
    · obtain rfl : result = .ok reply := by simpa using hi
      obtain ⟨ws, rfl, hwork⟩ := h.work hrun
      rw [hcommand] at hwork
      exact hwork.resets (h.led t.1) (fun r hr => (h.reads t.1 r hr).1) hwrite
    · exact absurd (by simpa only [s.world.set_ne hne] using hi) hnot
  · exact absurd ((hsame i _).mp hi) hnot

theorem RedeemedUsed.step (h : RedeemedUsed ports commands s)
    (hs : ResetsTracked ports commands s) (t : ι × Timestamp) :
    RedeemedUsed ports commands (s.step t) := by
  intro i tokenHash hi
  by_cases hbefore : Redeemed ports commands s i tokenHash
  · exact (h i tokenHash hbefore).later (hs.evolves t).2.resets
  · exact (hs.redeems hbefore hi).2

theorem redeemedUsed (ports : Ports) (commands : ι → Command) {db : Db}
    (hunique : ResetsUnique db.passwordResetTokens) (schedule : List (ι × Timestamp)) :
    ResetsTracked ports commands
        (schedule.foldl Lib.Traced.step (identityStart ports commands db)) ∧
      RedeemedUsed ports commands
        (schedule.foldl Lib.Traced.step (identityStart ports commands db)) := by
  refine Lib.inv_foldl
    (P := fun s => ResetsTracked ports commands s ∧ RedeemedUsed ports commands s)
    (fun s t h => ⟨h.1.step t, h.2.step h.1 t⟩) schedule
    ⟨Lib.Traced.tracked_start hunique fun i => command_ends ports (commands i), ?_⟩
  rintro i tokenHash ⟨_, _, _, _, -, -, hi⟩
  cases hi

/-- After a token was redeemed: a request that had not begun by then has seen it used at every read,
    and does not redeem it. -/
structure AfterRedemption (ports : Ports) (commands : ι → Command) (j : ι) (tokenHash : String)
    (s : IdentityTrace ι) : Prop where
  tracked : ResetsTracked ports commands s
  used : s.world.db.ResetUsed tokenHash
  reads : s.Reads fun i d => i = j → d.ResetUsed tokenHash
  refused : ¬ Redeemed ports commands s j tokenHash

theorem AfterRedemption.step {j : ι} {tokenHash : String}
    (h : AfterRedemption ports commands j tokenHash s) (t : ι × Timestamp) :
    AfterRedemption ports commands j tokenHash (s.step t) where
  tracked := h.tracked.step t
  used := h.used.later (h.tracked.evolves t).2.resets
  reads := h.reads.step t (fun _ _ hd => hd) fun _ _ => h.used
  refused := by
    intro hj
    obtain ⟨⟨r, hr, hunused⟩, -⟩ := h.tracked.redeems h.refused hj
    exact hunused (h.reads j r hr rfl)

/-- In every interleaving of identity commands: once a password reset has committed, no request that
    begins afterwards redeems its token. -/
theorem reset_token_single_use (ports : Ports) (commands : ι → Command) {db : Db}
    (hunique : ResetsUnique db.passwordResetTokens) (pre post : List (ι × Timestamp)) {i j : ι}
    {tokenHash : String}
    (hredeemed : Redeemed ports commands
      (pre.foldl Lib.Traced.step (identityStart ports commands db)) i tokenHash)
    (hfresh : ∀ t ∈ pre, t.1 ≠ j) :
    ¬ Redeemed ports commands
      ((pre ++ post).foldl Lib.Traced.step (identityStart ports commands db)) j tokenHash := by
  obtain ⟨htracked, hused⟩ := redeemedUsed ports commands hunique pre
  obtain ⟨hreads, hsession⟩ :=
    Lib.Traced.foldl_step_of_ne hfresh (identityStart ports commands db)
  rw [List.foldl_append]
  generalize pre.foldl Lib.Traced.step (identityStart ports commands db) = before at *
  have hstart : AfterRedemption ports commands j tokenHash before := by
    refine ⟨htracked, hused i tokenHash hredeemed, ?_, ?_⟩
    · rintro _ r hr rfl
      rw [hreads] at hr
      cases hr
    · rintro ⟨_, _, _, _, -, -, hj⟩
      rw [hsession] at hj
      cases hj
  exact (Lib.inv_foldl (P := AfterRedemption ports commands j tokenHash) (fun _ t h => h.step t) post
    hstart).refused

end Interleavings

/-! ### Two links, both redeemed -/

/-- Alice asks for two links and redeems both; the first one she tries a second time. -/
def twoLinks : ℕ → Command
  | 0 => .requestPasswordReset "alice@example.org" ⟨⟨20⟩, "one"⟩
  | 1 => .requestPasswordReset "alice@example.org" ⟨⟨21⟩, "two"⟩
  | 2 => .resetPassword "one" "Tr0mbone-quartet" ""
  | 3 => .resetPassword "two" "Tr0mbone-quintet" ""
  | _ => .resetPassword "one" "Tr0mbone-sextets" ""

/-- Both links are sent, and the first is redeemed. -/
def firstRedeemed : List (ℕ × Timestamp) :=
  [(0, 0), (0, 1), (1, 2), (1, 3), (2, 4), (2, 5), (2, 6), (2, 6), (2, 6), (2, 7)]

theorem reset_token_single_use_sample :
    ¬ Redeemed plainPorts twoLinks
      ((firstRedeemed ++ [(4, 8), (4, 9)]).foldl Lib.Traced.step
        (identityStart plainPorts twoLinks aliceDb)) 4 "one" := by
  refine reset_token_single_use (i := 2) plainPorts twoLinks ?_ firstRedeemed [(4, 8), (4, 9)]
    ⟨_, _, _, _, rfl, rfl, rfl⟩ (by decide)
  intro t ht
  cases ht

/-- The second link still works. -/
theorem second_link_redeemed : ¬ ∀ (ports : Ports) (commands : ℕ → Command) (db : Db)
    (pre post : List (ℕ × Timestamp)) (i j : ℕ) (before : IdentityTrace ℕ)
    (token token' : PasswordResetToken),
    ResetsUnique db.passwordResetTokens →
    before = pre.foldl Lib.Traced.step (identityStart ports commands db) →
    token ∈ before.world.db.passwordResetTokens.rows →
    token' ∈ before.world.db.passwordResetTokens.rows → token'.userId = token.userId →
    Redeemed ports commands before i token.tokenHash → (∀ t ∈ pre, t.1 ≠ j) →
    ¬ Redeemed ports commands (post.foldl Lib.Traced.step before) j token'.tokenHash := by
  intro h
  refine h plainPorts twoLinks aliceDb firstRedeemed [(3, 8), (3, 9), (3, 10), (3, 10), (3, 10), (3, 11)] 2 3 _
    { OneTimeToken.issue PASSWORD_RESET_TOKEN_TTL ⟨20⟩ ⟨1⟩ ⟨1⟩ "one" 0 with usedAt := some 6 }
    (OneTimeToken.issue PASSWORD_RESET_TOKEN_TTL ⟨21⟩ ⟨1⟩ ⟨1⟩ "two" 2)
    ?_ rfl ?_ ?_ rfl ⟨_, _, _, _, rfl, rfl, rfl⟩ (by decide) ⟨_, _, _, _, rfl, rfl, rfl⟩
  · intro t ht
    cases ht
  · exact List.mem_cons_self ..
  · exact List.mem_cons_of_mem _ (List.mem_cons_self ..)

end GeoRisk.Identity
