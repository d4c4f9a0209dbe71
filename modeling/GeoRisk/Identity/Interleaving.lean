import Mathlib
import GeoRisk.Identity.History

/-! Interleavings of identity commands. Every session runs one command, and what `Work` says of its
    commit is about what it has read on the way, which by then may be out of date. All that the reads
    are good for is what time leaves standing: a refresh token that was read is still there, and still
    revoked if it was. -/

namespace GeoRisk.Identity

abbrev IdentityTrace (ι : Type) := Lib.Traced ι Db Timestamp (Except IdentityError Reply)

/-- Rows stay, and refresh tokens keep what they keep over time. -/
structure Onward (d d' : Db) : Prop where
  grows : d.Grows d'
  tokens : TokensLater d.refreshTokens d'.refreshTokens

theorem Onward.refl (d : Db) : Onward d d := ⟨.refl d, .refl _⟩

theorem Onward.trans {d d₁ d' : Db} (h : Onward d d₁) (h' : Onward d₁ d') : Onward d d' :=
  ⟨h.grows.trans h'.grows, h.tokens.trans h'.tokens⟩

section Interleaving

variable {ι : Type} {ports : Ports} {commands : ι → Command} {s : IdentityTrace ι}

/-- Every command is about to begin. -/
def identityStart (ports : Ports) (commands : ι → Command) (db : Db) : IdentityTrace ι :=
  .start (fun i => (commands i).txn ports) db

/-- What holds in every interleaving: the sessions end in work, the tokens are sound and those that
    were read are kept. -/
abbrev Interleaved (ports : Ports) (commands : ι → Command) (s : IdentityTrace ι) : Prop :=
  s.Tracked (fun i => CommitsWork ports (commands i)) (fun i => Quiet (commands i)) Db.Sound Onward

theorem interleaved_start (ports : Ports) (commands : ι → Command) {db : Db} (hdb : db.Sound) :
    Interleaved ports commands (identityStart ports commands db) :=
  Lib.Traced.tracked_start hdb fun i => command_ends ports (commands i)

/-- A session that is about to commit flushes the writes of some work. -/
theorem Interleaved.work (h : Interleaved ports commands s) {i : ι} {write : Db → Option Db}
    {result : Except IdentityError Reply}
    (hi : s.world.sessions i = .running (.commit write result)) :
    ∃ ws, write = flush ws ∧ Work ports (commands i) (s.reads i) ws result := by
  have hcommit : CommitsWork ports (commands i) (s.reads i) write result := h.ending i _ hi
  exact hcommit ((h.ordered i).imp Onward.grows)

theorem Interleaved.ledTo (h : Interleaved ports commands s) (i : ι) :
    LedTo (s.reads i) s.world.db :=
  ⟨(h.ordered i).imp Onward.tokens, fun r hr => (h.reads i r hr).2.tokens⟩

theorem commitsWork_preserves (ports : Ports) (commands : ι → Command) :
    Lib.Traced.Preserves (fun i => CommitsWork ports (commands i)) Db.Sound Onward := by
  intro i reads write result d d' hcommit hreads hordered hd hwrite
  obtain ⟨ws, rfl, hwork⟩ := hcommit (hordered.imp Onward.grows)
  have hled : LedTo reads d := ⟨hordered.imp Onward.tokens, fun r hr => (hreads r hr).2.tokens⟩
  exact ⟨hwork.sound hled hd hwrite, flush_grows hwrite, hwork.tokensLater hled hwrite⟩

variable [DecidableEq ι]

/-- What a step does to the tables. -/
theorem Interleaved.evolves (h : Interleaved ports commands s) (t : ι × Timestamp) :
    (s.step t).world.db.Sound ∧ Onward s.world.db (s.step t).world.db :=
  Lib.Traced.Tracked.evolves h .refl (commitsWork_preserves ports commands) t

theorem Interleaved.step (h : Interleaved ports commands s) (t : ι × Timestamp) :
    Interleaved ports commands (s.step t) :=
  Lib.Traced.Tracked.step h .refl .trans (commitsWork_preserves ports commands) t

theorem interleaved (ports : Ports) (commands : ι → Command) {db : Db} (hdb : db.Sound)
    (schedule : List (ι × Timestamp)) :
    Interleaved ports commands (schedule.foldl Lib.Traced.step (identityStart ports commands db)) :=
  Lib.inv_foldl (P := Interleaved ports commands) (fun _ t h => h.step t) schedule
    (interleaved_start ports commands hdb)

end Interleaving

end GeoRisk.Identity
