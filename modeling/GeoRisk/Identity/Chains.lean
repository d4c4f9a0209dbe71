import Mathlib
import GeoRisk.Identity.Auth

/-! The chain of a login: its refresh token, the token that replaced it, and so on. In sound tables a
    token that has been replaced is revoked, so along a chain only the last token can be unrevoked. -/

namespace GeoRisk.Identity

/-- One token further along the chain. -/
def Db.ReplacedBy (db : Db) (t t' : RefreshToken) : Prop :=
  ∃ id, t.replacedById = some id ∧ db.refreshTokens.get id = some t'

/-- The chain that starts at `t` reaches `t'`. -/
def Db.Chain (db : Db) : RefreshToken → RefreshToken → Prop := Relation.ReflTransGen db.ReplacedBy

/-- No two tokens share a hash, and a replaced token is revoked. -/
structure Db.Sound (db : Db) : Prop where
  unique : ∀ t ∈ db.refreshTokens.rows, ∀ t' ∈ db.refreshTokens.rows,
    t.tokenHash = t'.tokenHash → t = t'
  revoked : ∀ t ∈ db.refreshTokens.rows, t.replacedById ≠ none → t.revokedAt ≠ none

section Sound

variable {db : Db}

theorem getByTokenHash_some {h : String} {t : RefreshToken} (ht : db.getByTokenHash h = some t) :
    t ∈ db.refreshTokens.rows ∧ t.tokenHash = h :=
  ⟨List.mem_of_find?_eq_some ht, by simpa using List.find?_some ht⟩

theorem Db.Sound.getByTokenHash (hdb : db.Sound) {t : RefreshToken} {h : String}
    (ht : t ∈ db.refreshTokens.rows) (hhash : t.tokenHash = h) : db.getByTokenHash h = some t := by
  cases hget : db.getByTokenHash h with
  | none =>
    rw [Db.getByTokenHash, List.find?_eq_none] at hget
    exact absurd hhash (by simpa using hget t ht)
  | some t' =>
    obtain ⟨hmem, hhash'⟩ := getByTokenHash_some hget
    rw [hdb.unique t' hmem t ht (hhash'.trans hhash.symm)]

/-- Tables stay sound when a row takes its place, or a new one, with a hash that no other row has, and
    revoked if it is replaced. -/
theorem Db.Sound.put {row : RefreshToken} (h : db.Sound)
    (hhash : ∀ t ∈ db.refreshTokens.rows, t.tokenHash = row.tokenHash → t.id = row.id)
    (hrevoked : row.replacedById ≠ none → row.revokedAt ≠ none) :
    Db.Sound { db with refreshTokens := db.refreshTokens.put row } := by
  refine ⟨?_, ?_⟩
  · intro t ht t' ht' heq
    rcases Lib.Table.mem_put_rows.mp ht with rfl | ⟨hold, hne⟩ <;>
      rcases Lib.Table.mem_put_rows.mp ht' with rfl | ⟨hold', hne'⟩
    · rfl
    · exact absurd (hhash t' hold' heq.symm) hne'
    · exact absurd (hhash t hold heq) hne
    · exact h.unique t hold t' hold' heq
  · intro t ht hne
    rcases Lib.Table.mem_put_rows.mp ht with rfl | ⟨hold, _⟩
    · exact hrevoked hne
    · exact h.revoked t hold hne

/-- Along a chain only the last token can be unrevoked. -/
theorem Db.Sound.chain_unique (h : db.Sound) {t x y : RefreshToken}
    (ht : t ∈ db.refreshTokens.rows) (hx : db.Chain t x) (hy : db.Chain t y)
    (hxr : x.revokedAt = none) (hyr : y.revokedAt = none) : x = y := by
  have hmem : ∀ {z}, db.Chain t z → z ∈ db.refreshTokens.rows := by
    intro z hz
    cases hz with
    | refl => exact ht
    | tail _ hstep => obtain ⟨_, _, hget⟩ := hstep; exact Lib.Table.mem_of_get hget
  -- an unrevoked token has no successor
  have hlast : ∀ {u v}, db.Chain t u → u.revokedAt = none → db.Chain u v → u = v := by
    intro u v hu hur huv
    rcases Relation.ReflTransGen.cases_head huv with heq | ⟨_, ⟨id, hid, _⟩, _⟩
    · exact heq
    · exact absurd hur (h.revoked u (hmem hu) (by simp [hid]))
  have huniq : Relator.RightUnique db.ReplacedBy := by
    rintro a b c ⟨id, hid, hb⟩ ⟨id', hid', hc⟩
    rw [hid] at hid'
    cases hid'
    rw [hb] at hc
    exact Option.some.inj hc
  rcases Relation.ReflTransGen.total_of_right_unique huniq hx hy with hxy | hyx
  · exact hlast hx hxr hxy
  · exact (hlast hy hyr hyx).symm

end Sound

/-! ### Alice -/

def alice : User where
  id := ⟨1⟩
  tenantId := ⟨1⟩
  email := "alice@example.org"
  hashedPassword := some "secret"
  role := ⟨.viewer, {.assessmentView}⟩
  status := .active
  createdAt := 0
  updatedAt := 0

def aliceDb : Db where
  users := Lib.Table.empty.put alice
  refreshTokens := .empty
  revokedAccessTokens := .empty
  passwordResetTokens := .empty
  invitationTokens := .empty
  roles := .empty
  tenants := .empty
  outbox := []

/-- Passwords and refresh tokens kept in the clear; no access token decodes. -/
def plainPorts : Ports where
  verify := fun plaintext hashed => plaintext = hashed
  hash := fun _ plaintext => plaintext
  hashToken := id
  encode := fun _ => ""
  decode := fun _ _ => .error .invalidToken
  ttlSeconds := 900

theorem aliceDb_sound : aliceDb.Sound :=
  ⟨by simp [aliceDb, Lib.Table.empty], by simp [aliceDb, Lib.Table.empty]⟩

end GeoRisk.Identity
