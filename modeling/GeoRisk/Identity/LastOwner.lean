import Mathlib
import GeoRisk.Identity.FinalRevocation
import GeoRisk.Identity.Interleaving

/-! Does a tenant keep its last owner? `_assert_not_last_owner` counts the active owners in one query,
    and another row is written at the commit. `save` compares versions, but of the one row that it
    writes; two requests on the two owners of a tenant can each count the other:

        suspend A:  load A, count 2, save A ──────────────▶ commit: A suspended
        suspend B:  load B, count 2, save B ────────────────────▶ commit: B suspended, no owner left

    The tenant keeps an owner exactly when the guard would still let pass every commit that takes one
    away. -/

namespace GeoRisk.Identity

/-! ### Active owners -/

def User.IsActiveOwner (tenantId : TenantId) (u : User) : Prop :=
  u.tenantId = tenantId ∧ u.role.name = .owner ∧ u.status = .active

section Owners

variable {db db' : Db} {tenantId : TenantId} {u : User}

theorem mem_activeOwners :
    u ∈ db.activeOwners tenantId ↔ u ∈ db.users.rows ∧ u.IsActiveOwner tenantId := by
  rw [Db.activeOwners, List.mem_filter, decide_eq_true_iff]
  rfl

theorem countActiveOwners_pos :
    0 < db.countActiveOwners tenantId ↔ ∃ u, u ∈ db.activeOwners tenantId := by
  rw [Db.countActiveOwners, List.length_pos_iff_exists_mem]

/-- Of two owners one is another than this. -/
theorem exists_owner_ne (hcount : 1 < db.countActiveOwners tenantId) (id : UserId) :
    ∃ v ∈ db.activeOwners tenantId, v.id ≠ id := by
  have hnodup : ((db.activeOwners tenantId).map User.id).Nodup :=
    db.users.nodup.sublist (List.filter_sublist.map _)
  unfold Db.countActiveOwners at hcount
  generalize db.activeOwners tenantId = owners at hcount hnodup
  by_contra hnone
  have hall : ∀ v ∈ owners, v.id = id := fun v hv => by_contra fun hne => hnone ⟨v, hv, hne⟩
  match owners, hcount with
  | a :: b :: rest, _ =>
    have hab : a.id = b.id := (hall a (by simp)).trans (hall b (by simp)).symm
    simp [hab] at hnodup

/-- Besides this one there is another. -/
theorem one_lt_countActiveOwners (hu : u ∈ db.activeOwners tenantId) :
    1 < db.countActiveOwners tenantId ↔ ∃ v ∈ db.activeOwners tenantId, v.id ≠ u.id := by
  refine ⟨fun hcount => exists_owner_ne hcount u.id, ?_⟩
  unfold Db.countActiveOwners
  generalize db.activeOwners tenantId = owners at hu
  rintro ⟨v, hv, hne⟩
  match owners with
  | [] => cases hu
  | [a] =>
    rw [List.mem_singleton.mp hu, List.mem_singleton.mp hv] at hne
    exact absurd rfl hne
  | a :: b :: rest => simp

/-- The guard lets an active owner pass if it is not the last one. -/
theorem ownerGuard_now (hu : u.IsActiveOwner tenantId) (now : Timestamp) :
    OwnerGuard u [(now, db)] ↔ 1 < db.countActiveOwners tenantId := by
  obtain ⟨htenant, hrole, -⟩ := hu
  simp [OwnerGuard, htenant, hrole]

end Owners

/-! ### Taking an owner away -/

/-- The write takes the status or the role of an active owner away from this user: it writes the
    column, with another value. -/
def Write.TakesFrom (id : UserId) : Write → Prop
  | .updateUser model user => model.id = id ∧
    (user.status ≠ model.status ∧ user.status ≠ .active ∨
      user.role ≠ model.role ∧ user.role.name ≠ .owner)
  | _ => False

section Takes

variable {ports : Ports} {command : Command} {reads : List (Timestamp × Db)} {ws : List Write}
  {result : Except IdentityError Reply} {loaded user model : User} {db db' : Db}

theorem SkipUsers.not_takes (h : SkipUsers ws) {w : Write} (hw : w ∈ ws) (id : UserId) :
    ¬ w.TakesFrom id := by
  intro htakes
  cases w with
  | updateUser model user =>
    have hnone := h _ hw .empty
    rw [Write.onUsers, show Lib.Table.empty.get model.id = none from rfl] at hnone
    cases hnone
  | _ => exact htakes

/-- What is taken is taken by the save of a user that was loaded. -/
theorem Work.takes (h : Work ports command reads ws result) {id : UserId} {w : Write} (hw : w ∈ ws)
    (htakes : w.TakesFrom id) : ∃ loaded user model rest, Edit ports command reads loaded user ∧
      (∃ r ∈ reads, SavedOver r.2 user model) ∧ ws = .updateUser model user :: rest ∧
      SkipUsers rest ∧ (Write.updateUser model user).TakesFrom id := by
  rcases h.users with hskip | ⟨new, rest, -, rfl, hskip⟩ |
    ⟨loaded, user, model, rest, hedit, hsaved, rfl, hskip⟩
  · exact absurd htakes (hskip.not_takes hw id)
  · rcases List.mem_cons.mp hw with rfl | hw
    · exact htakes.elim
    · exact absurd htakes (hskip.not_takes hw id)
  · rcases List.mem_cons.mp hw with rfl | hw
    · exact ⟨loaded, user, model, rest, hedit, hsaved, rfl, hskip, htakes⟩
    · exact absurd htakes (hskip.not_takes hw id)

/-- It is gone, whatever the row is by now. -/
theorem Write.TakesFrom.gone {id : UserId} (h : (Write.updateUser model user).TakesFrom id)
    (current : User) :
    (model.flush user current).status ≠ .active ∨ (model.flush user current).role.name ≠ .owner := by
  obtain ⟨-, ⟨hwritten, hstatus⟩ | ⟨hwritten, hrole⟩⟩ := h
  · exact Or.inl (by simpa [User.flush, Lib.flushed, hwritten] using hstatus)
  · exact Or.inr (by simpa [User.flush, Lib.flushed, hwritten] using hrole)

/-- An active owner whose row is saved stays one, if nothing is taken from it. -/
theorem activeOwner_flush {tenantId : TenantId} {current : User}
    (howner : current.IsActiveOwner tenantId) (htenant : user.tenantId = model.tenantId)
    (hnot : ¬ (Write.updateUser model user).TakesFrom model.id) :
    (model.flush user current).IsActiveOwner tenantId := by
  obtain ⟨hu₁, hu₂, hu₃⟩ := howner
  have hkept : ¬ (user.status ≠ model.status ∧ user.status ≠ .active ∨
      user.role ≠ model.role ∧ user.role.name ≠ .owner) := fun htaken => hnot ⟨rfl, htaken⟩
  rw [not_or, not_and_not_right, not_and_not_right] at hkept
  refine ⟨by simpa only [User.flush, htenant, Lib.flushed_same] using hu₁, ?_, ?_⟩
  · simp only [User.flush, Lib.flushed]
    split
    · exact hu₂
    · next hne => exact hkept.2 hne
  · simp only [User.flush, Lib.flushed]
    split
    · exact hu₃
    · next hne => exact hkept.1 hne

/-- Who takes it from an active owner it has loaded was let pass by the guard. -/
theorem Edit.guarded (h : Edit ports command reads loaded user) (hrole : loaded.role.name = .owner)
    (hactive : loaded.status = .active)
    (htaken : user.status ≠ .active ∨ user.role.name ≠ .owner) :
    ∃ r ∈ reads, 1 < r.2.countActiveOwners loaded.tenantId := by
  have hguarded : ∀ {reads' : List (Timestamp × Db)}, OwnerGuard loaded reads' →
      (∀ r ∈ reads', r ∈ reads) → ∃ r ∈ reads, 1 < r.2.countActiveOwners loaded.tenantId :=
    fun hguard hsub => (hguard.mono hsub).resolve_left fun hne => hne hrole
  have hsame : user.status = loaded.status → user.role = loaded.role →
      ∃ r ∈ reads, 1 < r.2.countActiveOwners loaded.tenantId := by
    intro hstatus hrole'
    rw [hstatus, hrole'] at htaken
    exact absurd htaken (by simp [hactive, hrole])
  cases h with
  | login => exact hsame rfl rfl
  | acceptInvitation _ hactivate =>
    obtain ⟨_, rfl⟩ := User.activate_ok hactivate
    exact hsame hactive.symm rfl
  | reactivateUser _ _ hreactivate =>
    obtain ⟨_, rfl⟩ := User.transitionStatus_ok hreactivate
    exact hsame hactive.symm rfl
  | changeUserRole _ _ _ _ hguard =>
    rcases hguard with heq | hguard
    · rw [hrole] at heq
      exact absurd htaken (not_or.mpr ⟨not_not.mpr hactive, not_not.mpr heq⟩)
    · exact hguarded hguard fun _ hr => hr
  | revoking hrevoking =>
    cases hrevoking with
    | suspendUser _ _ hguard | deactivateUser _ _ hguard =>
      exact hguarded hguard fun r hr => List.mem_append_left _ (List.mem_append_left _ hr)
    | changePassword | resetPassword | revokeAllSessions => exact hsame rfl rfl

end Takes

/-! ### All interleavings -/

section Interleavings

variable {ι : Type} {ports : Ports} {commands : ι → Command} {tenantId : TenantId}
  {s : IdentityTrace ι}

def HasActiveOwner (tenantId : TenantId) (s : IdentityTrace ι) : Prop :=
  0 < s.world.db.countActiveOwners tenantId

/-- If the next step is a commit that takes an active owner of the tenant away,
    `_assert_not_last_owner` would still let it pass. -/
def GuardHolds (ports : Ports) (commands : ι → Command) (tenantId : TenantId) (s : IdentityTrace ι)
    (t : ι × Timestamp) : Prop :=
  ∀ ws result u, s.world.sessions t.1 = .running (.commit (flush ws) result) →
    Work ports (commands t.1) (s.reads t.1) ws result → flush ws s.world.db ≠ none →
    u ∈ s.world.db.activeOwners tenantId → (∃ w ∈ ws, w.TakesFrom u.id) →
    OwnerGuard u [(t.2, s.world.db)]

/-- If the next step is a commit, the active owners that its session has read are owners still. -/
def OwnersKept (tenantId : TenantId) (s : IdentityTrace ι) (t : ι × Timestamp) : Prop :=
  ∀ write result, s.world.sessions t.1 = .running (.commit write result) →
    ∀ r ∈ s.reads t.1, ∀ u ∈ r.2.activeOwners tenantId,
      ∃ v ∈ s.world.db.activeOwners tenantId, v.id = u.id

def SameTenant (u u' : User) : Prop := u'.tenantId = u.tenantId

/-- Rows stay, and a user stays with its tenant. -/
structure InTenants (d d' : Db) : Prop where
  grows : d.Grows d'
  users : Lib.Table.Kept SameTenant d.users d'.users

theorem InTenants.refl (d : Db) : InTenants d d :=
  ⟨.refl d, Lib.Table.Kept.refl (R := SameTenant) (fun _ => rfl) _⟩

theorem InTenants.trans {d d₁ d' : Db} (h : InTenants d d₁) (h' : InTenants d₁ d') :
    InTenants d d' :=
  ⟨h.grows.trans h'.grows,
    Lib.Table.Kept.trans (R := SameTenant) (fun h₁ h₂ => h₂.trans h₁) h.users h'.users⟩

section Commit

variable {command : Command} {reads : List (Timestamp × Db)} {ws : List Write}
  {result : Except IdentityError Reply} {loaded user model : User} {db db' : Db}

/-- A user is saved over a row of its own tenant. -/
theorem Edit.tenant (h : Edit ports command reads loaded user)
    (hsaved : ∃ r ∈ reads, SavedOver r.2 user model) (hreads : ∀ r ∈ reads, InTenants r.2 db) :
    user.tenantId = model.tenantId := by
  obtain ⟨r, hr, hload⟩ := h.read
  obtain ⟨r', hr', hsave, -⟩ := hsaved
  obtain ⟨hid, htenant, -⟩ := h.generation
  obtain ⟨u, hu, hsame⟩ := (hreads r hr).users _ _ hload
  obtain ⟨u', hu', hsame'⟩ := (hreads r' hr').users _ _ hsave
  rw [hid, hu] at hu'
  cases hu'
  exact htenant.trans (hsame.symm.trans hsame')

theorem Work.inTenants (h : Work ports command reads ws result)
    (hreads : ∀ r ∈ reads, InTenants r.2 db) (hflush : flush ws db = some db') :
    InTenants db db' := by
  have husers := flush_users hflush
  refine ⟨flush_grows hflush, ?_⟩
  rcases h.users with hskip | ⟨new, rest, -, rfl, hskip⟩ |
    ⟨loaded, user, model, rest, hedit, hsaved, rfl, hskip⟩
  · rw [foldlM_skip hskip] at husers
    rw [← Option.some.inj husers]
    exact (InTenants.refl db).users
  · rw [foldlM_onUsers_head hskip] at husers
    obtain ⟨hfresh, heq⟩ := onUsers_insert husers
    rw [heq]
    refine Lib.Table.kept_put (R := SameTenant) (fun _ => rfl) fun old hold => ?_
    rw [hold] at hfresh
    cases hfresh
  · obtain ⟨current, hcurrent, hput⟩ := flush_updateUser hskip hflush
    rw [hput]
    refine Lib.Table.kept_put (R := SameTenant) (fun _ => rfl) fun old hold => ?_
    change db.users.get current.id = some old at hold
    rw [Lib.Table.get_of_mem (Lib.Table.mem_of_get hcurrent)] at hold
    cases hold
    simp [SameTenant, User.flush, hedit.tenant hsaved hreads]

/-- Unless it is taken from, an active owner stays one. -/
theorem Work.keeps_owner (h : Work ports command reads ws result)
    (hreads : ∀ r ∈ reads, InTenants r.2 db) (hflush : flush ws db = some db') {u : User}
    (hu : u ∈ db.activeOwners tenantId) (hnot : ¬ ∃ w ∈ ws, w.TakesFrom u.id) :
    ∃ v, v ∈ db'.activeOwners tenantId := by
  obtain ⟨hmem, howner⟩ := mem_activeOwners.mp hu
  have husers := flush_users hflush
  rcases h.users with hskip | ⟨new, rest, -, rfl, hskip⟩ |
    ⟨loaded, user, model, rest, hedit, hsaved, rfl, hskip⟩
  · rw [foldlM_skip hskip] at husers
    exact ⟨u, mem_activeOwners.mpr ⟨Option.some.inj husers ▸ hmem, howner⟩⟩
  · rw [foldlM_onUsers_head hskip] at husers
    obtain ⟨hfresh, heq⟩ := onUsers_insert husers
    refine ⟨u, mem_activeOwners.mpr ⟨?_, howner⟩⟩
    rw [heq]
    refine Lib.Table.mem_put_rows.mpr (Or.inr ⟨hmem, fun hid => ?_⟩)
    rw [← hid, Lib.Table.get_of_mem hmem] at hfresh
    cases hfresh
  · obtain ⟨current, hcurrent, hput⟩ := flush_updateUser hskip hflush
    have hkey : current.id = model.id := Lib.Table.key_of_get hcurrent
    by_cases hid : u.id = current.id
    · -- the row of the owner is saved
      obtain rfl := List.inj_on_of_nodup_map db.users.nodup hmem (Lib.Table.mem_of_get hcurrent) hid
      have hnot' : ¬ (Write.updateUser model user).TakesFrom model.id := fun htakes =>
        hnot ⟨_, List.mem_cons_self .., by rwa [hkey]⟩
      refine ⟨model.flush user u, mem_activeOwners.mpr ⟨?_, ?_⟩⟩
      · rw [hput]
        exact Lib.Table.mem_put_rows.mpr (Or.inl rfl)
      · exact activeOwner_flush howner (hedit.tenant hsaved hreads) hnot'
    · refine ⟨u, mem_activeOwners.mpr ⟨?_, howner⟩⟩
      rw [hput]
      exact Lib.Table.mem_put_rows.mpr (Or.inr ⟨hmem, hid⟩)

/-- The owners after one was taken away are those before but this one. -/
theorem Work.owners_after (h : Work ports command reads ws result)
    (hflush : flush ws db = some db') {u : User} (htakes : ∃ w ∈ ws, w.TakesFrom u.id) :
    (∃ v, v ∈ db'.activeOwners tenantId) ↔ ∃ v ∈ db.activeOwners tenantId, v.id ≠ u.id := by
  obtain ⟨w, hw, htakes⟩ := htakes
  obtain ⟨loaded, user, model, rest, -, -, rfl, hskip, htakes⟩ := h.takes hw htakes
  obtain ⟨current, hcurrent, hput⟩ := flush_updateUser hskip hflush
  have hid : (model.flush user current).id = u.id :=
    (Lib.Table.key_of_get hcurrent).trans htakes.1
  have hgone := htakes.gone current
  refine exists_congr fun v => ?_
  rw [mem_activeOwners, mem_activeOwners, hput, Lib.Table.mem_put_rows, hid]
  constructor
  · rintro ⟨rfl | ⟨hmem, hne⟩, howner⟩
    · exact absurd ⟨howner.2.2, howner.2.1⟩ (not_and_or.mpr hgone)
    · exact ⟨⟨hmem, howner⟩, hne⟩
  · rintro ⟨⟨hmem, howner⟩, hne⟩
    exact ⟨Or.inr ⟨hmem, hne⟩, howner⟩

end Commit

/-- What holds in every interleaving: the sessions end in work, and users stay with their tenants. -/
abbrev TenantsTracked (ports : Ports) (commands : ι → Command) (s : IdentityTrace ι) : Prop :=
  s.Tracked (fun i => CommitsWork ports (commands i)) (fun i => Quiet (commands i)) (fun _ => True)
    InTenants

theorem TenantsTracked.work (h : TenantsTracked ports commands s) {i : ι}
    {write : Db → Option Db} {result : Except IdentityError Reply}
    (hi : s.world.sessions i = .running (.commit write result)) :
    ∃ ws, write = flush ws ∧ Work ports (commands i) (s.reads i) ws result := by
  have hcommit : CommitsWork ports (commands i) (s.reads i) write result := h.ending i _ hi
  exact hcommit ((h.ordered i).imp InTenants.grows)

theorem TenantsTracked.later (h : TenantsTracked ports commands s) (i : ι) :
    ∀ r ∈ s.reads i, InTenants r.2 s.world.db := fun r hr => (h.reads i r hr).2

theorem tenantsTracked_start (ports : Ports) (commands : ι → Command) (db : Db) :
    TenantsTracked ports commands (identityStart ports commands db) :=
  Lib.Traced.tracked_start trivial fun i => command_ends ports (commands i)

/-- A commit over the owners that its session has read passes the guard once more. -/
theorem guardHolds_of_ownersKept
    (hreads : s.Reads fun _ d => 0 < d.countActiveOwners tenantId) {t : ι × Timestamp}
    (hkept : OwnersKept tenantId s t) : GuardHolds ports commands tenantId s t := by
  rintro ws result u hi hwork - hu ⟨w, hw, htakes⟩
  obtain ⟨-, howner⟩ := mem_activeOwners.mp hu
  rw [ownerGuard_now howner, one_lt_countActiveOwners hu]
  by_contra hnone
  have hlast : ∀ v ∈ s.world.db.activeOwners tenantId, v.id = u.id := by simpa using hnone
  obtain ⟨loaded, user, model, rest, hedit, ⟨r', hr', hsave, -⟩, -, -, hid, htaken⟩ :=
    hwork.takes hw htakes
  obtain ⟨r, hr, hload⟩ := hedit.read
  obtain ⟨hsame, -⟩ := hedit.generation
  have hloaded : loaded.id = u.id := by
    rw [← hid, ← hsame]
    exact (Lib.Table.key_of_get hsave).symm
  -- at that read there was an owner, and it is this one
  obtain ⟨v, hv⟩ := countActiveOwners_pos.mp (hreads t.1 r hr)
  obtain ⟨v', hv', hvv'⟩ := hkept _ _ hi r hr v hv
  obtain ⟨hvmem, hvtenant, hvrole, hvstatus⟩ := mem_activeOwners.mp hv
  obtain rfl : v = loaded := by
    have hget := Lib.Table.get_of_mem hvmem
    rw [← hvv', hlast v' hv', ← hloaded, hload] at hget
    exact (Option.some.inj hget).symm
  -- so the guard has seen another one
  obtain ⟨r₁, hr₁, hcount⟩ := hedit.guarded hvrole hvstatus (htaken.imp And.right And.right)
  rw [hvtenant] at hcount
  obtain ⟨x, hx, hne⟩ := exists_owner_ne hcount u.id
  obtain ⟨y, hy, hyx⟩ := hkept _ _ hi r₁ hr₁ x hx
  exact hne (hyx ▸ hlast y hy)

variable [DecidableEq ι]

theorem TenantsTracked.step (h : TenantsTracked ports commands s) (t : ι × Timestamp) :
    TenantsTracked ports commands (s.step t) := by
  refine Lib.Traced.Tracked.step h .refl .trans ?_ t
  intro i reads write result d d' hcommit hreads hordered _ hwrite
  obtain ⟨ws, rfl, hwork⟩ := hcommit (hordered.imp InTenants.grows)
  exact ⟨trivial, hwork.inTenants (fun r hr => (hreads r hr).2) hwrite⟩

theorem hasActiveOwner_step (hs : TenantsTracked ports commands s) (h : HasActiveOwner tenantId s)
    (t : ι × Timestamp) :
    HasActiveOwner tenantId (s.step t) ↔ GuardHolds ports commands tenantId s t := by
  by_cases hcommit : ∃ write result, s.world.sessions t.1 = .running (.commit write result) ∧
      write s.world.db ≠ none
  · obtain ⟨write, result, hi, hcommits⟩ := hcommit
    obtain ⟨db', hwrite⟩ := Option.ne_none_iff_exists'.mp hcommits
    obtain ⟨ws, rfl, hwork⟩ := hs.work hi
    unfold HasActiveOwner
    rw [s.step_of_commit hi hwrite, countActiveOwners_pos]
    constructor
    · intro hafter ws' result' u hi' hwork' _ hu htakes
      rw [hi] at hi'
      injection hi' with hi'
      injection hi' with hsame _
      rw [hsame] at hwrite
      obtain ⟨-, howner⟩ := mem_activeOwners.mp hu
      rw [ownerGuard_now howner, one_lt_countActiveOwners hu, ← hwork'.owners_after hwrite htakes]
      exact hafter
    · intro hguard
      obtain ⟨u, hu⟩ := countActiveOwners_pos.mp h
      by_cases htakes : ∃ w ∈ ws, w.TakesFrom u.id
      · obtain ⟨-, howner⟩ := mem_activeOwners.mp hu
        refine (hwork.owners_after hwrite htakes).mpr ?_
        rw [← one_lt_countActiveOwners hu, ← ownerGuard_now howner]
        exact hguard ws result u hi hwork hcommits hu htakes
      · exact hwork.keeps_owner (hs.later t.1) hwrite hu htakes
  · obtain ⟨hsame, -⟩ := s.step_of_no_commit hcommit
    unfold HasActiveOwner
    rw [hsame]
    exact ⟨fun _ ws result _ hi _ hw => absurd ⟨_, result, hi, hw⟩ hcommit, fun _ => h⟩

/-- In every interleaving of identity commands the tenant has an active owner after every step iff
    the guard would still let pass every commit that takes one away. It would as long as no commit
    comes after the loss of an owner that its session has read. -/
theorem last_owner_kept_iff (ports : Ports) (commands : ι → Command) {db : Db}
    (tenantId : TenantId) (howner : 0 < db.countActiveOwners tenantId)
    (schedule : List (ι × Timestamp)) :
    (Lib.AllStates Lib.Traced.step (HasActiveOwner tenantId) (identityStart ports commands db)
        schedule ↔
      Lib.AllSteps Lib.Traced.step (GuardHolds ports commands tenantId)
        (identityStart ports commands db) schedule) ∧
    (Lib.AllSteps Lib.Traced.step (OwnersKept tenantId) (identityStart ports commands db) schedule →
      Lib.AllStates Lib.Traced.step (HasActiveOwner tenantId) (identityStart ports commands db)
        schedule) := by
  have hstart := tenantsTracked_start ports commands db
  constructor
  · exact Lib.allStates_iff_allSteps (J := TenantsTracked ports commands)
      (fun _ t hs h => hasActiveOwner_step hs h t) (fun _ t hs _ _ => hs.step t) hstart howner
  · intro hkept
    have hall := Lib.allStates_of_inv (P := fun s => TenantsTracked ports commands s ∧
        HasActiveOwner tenantId s ∧ s.Reads fun _ d => 0 < d.countActiveOwners tenantId) ?_
      ⟨hstart, howner, fun _ _ hr => nomatch hr⟩ hkept
    · exact hall.mono fun s h => h.2.1
    · rintro s t ⟨hs, h, hreads⟩ hok
      have hafter := (hasActiveOwner_step hs h t).mpr (guardHolds_of_ownersKept hreads hok)
      exact ⟨hs.step t, hafter, hreads.step t (fun _ _ hd => hd) fun _ => h⟩

end Interleavings

/-! ### Two owners suspend each other -/

def bob : User where
  id := ⟨2⟩
  tenantId := ⟨1⟩
  email := "bob@example.org"
  hashedPassword := some "secret"
  role := ⟨.owner, {.userManageStatus}⟩
  status := .active
  createdAt := 0
  updatedAt := 0

def carol : User := { bob with id := ⟨3⟩, email := "carol@example.org" }

def twoOwnersDb : Db := { aliceDb with users := (Lib.Table.empty.put bob).put carol }

def mutualSuspension : Bool → Command
  | false => .suspendUser ⟨1⟩ ⟨"3", ⟨3⟩⟩ "bob" ""
  | true => .suspendUser ⟨1⟩ ⟨"2", ⟨2⟩⟩ "carol" ""

/-- Both count the owners before either commits. -/
def bothCount : List (Bool × Timestamp) :=
  [(false, 0), (true, 0), (false, 1), (true, 1), (false, 2), (true, 2), (false, 3), (true, 3),
    (false, 4), (true, 4)]

theorem last_owner_kept_iff_sample :
    (Lib.AllStates Lib.Traced.step (HasActiveOwner ⟨1⟩)
        (identityStart plainPorts mutualSuspension twoOwnersDb) bothCount ↔
      Lib.AllSteps Lib.Traced.step (GuardHolds plainPorts mutualSuspension ⟨1⟩)
        (identityStart plainPorts mutualSuspension twoOwnersDb) bothCount) ∧
    (Lib.AllSteps Lib.Traced.step (OwnersKept ⟨1⟩)
        (identityStart plainPorts mutualSuspension twoOwnersDb) bothCount →
      Lib.AllStates Lib.Traced.step (HasActiveOwner ⟨1⟩)
        (identityStart plainPorts mutualSuspension twoOwnersDb) bothCount) :=
  last_owner_kept_iff plainPorts mutualSuspension ⟨1⟩ (by decide) bothCount

/-- No owner is left. -/
theorem owners_suspend_each_other : ¬ ∀ (ports : Ports) (commands : Bool → Command) (db : Db)
    (tenantId : TenantId) (schedule : List (Bool × Timestamp)),
    0 < db.countActiveOwners tenantId →
    (∀ i, ∃ userId changedBy reason, commands i = .suspendUser tenantId userId changedBy reason) →
    Lib.AllStates Lib.Traced.step (HasActiveOwner tenantId) (identityStart ports commands db)
      schedule := by
  intro h
  have hlast := (h plainPorts mutualSuspension twoOwnersDb ⟨1⟩ bothCount (by decide) ?_).last
  · unfold HasActiveOwner at hlast
    exact absurd hlast (by decide)
  · rintro (_ | _) <;> exact ⟨_, _, _, rfl⟩

end GeoRisk.Identity
