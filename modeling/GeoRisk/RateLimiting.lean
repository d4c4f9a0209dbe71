import GeoRisk.Lib.Numerals
import GeoRisk.Lib.Quota

/-! The rate limiter counts the checks of a key in windows of fixed length: with Redis while it answers,
    and else with a dictionary of its own. Redis may have counted a check and yet fail, and then the
    check is decided by the other counter:

        check ──▶ Redis ── answered ──────────────▶ count ≤ limit?
                   └────── lost (counted or not) ──▶ dictionary ──▶ count ≤ limit?

    so of one window either counter lets the limit pass.                                         -/

namespace GeoRisk.RateLimiting

/-- `int(time.time())`. -/
def wholeSeconds (time : ℚ≥0) : ℕ := ⌊time⌋₊

/-- Whether a check is allowed, and in how many seconds the next window begins. -/
structure Answer where
  allowed : Bool
  retryAfter : ℤ

/-- For each key the start of its window, and how often it was hit in it. -/
structure InMemoryWindowCounter where
  windows : String → Option (ℕ × ℕ) := fun _ => none

def InMemoryWindowCounter.hit (self : InMemoryWindowCounter) (key : String) (limit : ℕ)
    (windowSeconds : ℕ+) (time : ℚ≥0) : Answer × InMemoryWindowCounter :=
  let now := wholeSeconds time
  let windowStart := now / windowSeconds * windowSeconds
  let (currentStart, count) := (self.windows key).getD (windowStart, 0)
  let (currentStart, count) :=
    if currentStart ≠ windowStart then (windowStart, 0) else (currentStart, count)
  let count := count + 1
  ({ allowed := count ≤ limit, retryAfter := max ((currentStart + windowSeconds : ℤ) - now) 1 },
   { windows := Function.update self.windows key (some (currentStart, count)) })

/-- A server: its counters, each with the time at which it expires. -/
structure Redis where
  counters : String → Option (ℕ × ℚ≥0) := fun _ => none

/-- `INCR` and `EXPIRE` of a key, as one transaction. -/
def Redis.hit (self : Redis) (key : String) (seconds : ℕ) (time : ℚ≥0) : ℕ × Redis :=
  let count :=
    match self.counters key with
    | some (count, expiry) => if time < expiry then count + 1 else 1
    | none => 1
  (count, { counters := Function.update self.counters key (some (count, time + seconds)) })

/-- What becomes of a request to the server. -/
inductive Reply where
  | answered
  | lost (counted : Bool)

/-- The name of a counter of the server. -/
def redisKey (key : String) (windowStart : ℕ) : String := s!"ratelimit:{key}:{windowStart}"

/-- `_check_redis`, with no answer where it raises. -/
def checkRedis (redis : Redis) (key : String) (limit : ℕ) (windowSeconds : ℕ+) (time : ℚ≥0)
    (reply : Reply) : Option Answer × Redis :=
  let now := wholeSeconds time
  let windowStart := now / windowSeconds * windowSeconds
  let (count, counted) := redis.hit (redisKey key windowStart) windowSeconds time
  match reply with
  | .answered => (some { allowed := count ≤ limit
                         retryAfter := max ((windowStart + windowSeconds : ℤ) - now) 1 }, counted)
  | .lost true => (none, counted)
  | .lost false => (none, redis)

/-- A check of a key: the clock as `_check_redis` reads it, what becomes of the request, and the clock
    as the fallback reads it. -/
structure Check where
  key : String
  time : ℚ≥0
  reply : Reply
  fallbackTime : ℚ≥0

/-- How a check was decided, and by the clock of which counter. -/
structure Decision where
  key : String
  time : ℚ≥0
  byRedis : Bool
  answer : Answer

structure RateLimiter where
  redis : Option Redis
  fallback : InMemoryWindowCounter := {}

section Code

-- each key has its limit and its window
variable (limit : String → ℕ) (windowSeconds : String → ℕ+)

/-- The check by the fallback. -/
def RateLimiter.fallBack (self : RateLimiter) (check : Check) : Decision × RateLimiter :=
  let (answer, fallback) := self.fallback.hit check.key (limit check.key) (windowSeconds check.key)
    check.fallbackTime
  ({ key := check.key, time := check.fallbackTime, byRedis := false, answer }, { self with fallback })

/-- `_check`. -/
def RateLimiter.check (self : RateLimiter) (check : Check) : Decision × RateLimiter :=
  match self.redis with
  | none => self.fallBack limit windowSeconds check
  | some redis =>
    match checkRedis redis check.key (limit check.key) (windowSeconds check.key) check.time
      check.reply with
    | (some answer, redis) =>
      ({ key := check.key, time := check.time, byRedis := true, answer },
       { self with redis := some redis })
    | (none, redis) => { self with redis := some redis }.fallBack limit windowSeconds check

structure RateLimitExceededError where
  message : String
  retryAfterSeconds : ℤ

def RateLimiter.enforce (self : RateLimiter) (check : Check) :
    Except RateLimitExceededError Unit × RateLimiter :=
  let (decision, self) := self.check limit windowSeconds check
  if decision.answer.allowed then (.ok (), self)
  else (.error { message := s!"Too many requests — try again in {decision.answer.retryAfter} seconds"
                 retryAfterSeconds := decision.answer.retryAfter }, self)

/-- The decisions on checks made one after the other. -/
def RateLimiter.run (self : RateLimiter) : List Check → List Decision
  | [] => []
  | check :: checks =>
    let (decision, self) := self.check limit windowSeconds check
    decision :: self.run checks

end Code

/-- The clock readings of checks do not go back. -/
def Ordered (checks : List Check) : Prop :=
  (checks.flatMap fun check => [check.time, check.fallbackTime]).Pairwise (· ≤ ·)

variable {limit : String → ℕ} {windowSeconds : String → ℕ+}

/-- The window that a key is hit in: which one, counted from the epoch. -/
def bucket (windowSeconds : String → ℕ+) (hit : String × ℚ≥0) : String × ℕ :=
  (hit.1, wholeSeconds hit.2 / windowSeconds hit.1)

theorem bucket_mono (windowSeconds : String → ℕ+) (key : String) {time time' : ℚ≥0}
    (h : time ≤ time') :
    (bucket windowSeconds (key, time)).2 ≤ (bucket windowSeconds (key, time')).2 :=
  Nat.div_le_div_right (Nat.floor_mono h)

/-! ### The dictionary -/

/-- For each key, the counter knows its last window and the hits in it. -/
def InMemoryWindowCounter.Tracks (windowSeconds : String → ℕ+) (counter : InMemoryWindowCounter)
    (hits : List (String × ℚ≥0)) : Prop :=
  ∀ key, (counter.windows key = none ∧ ∀ h ∈ hits, h.1 ≠ key) ∨
    ∃ k : ℕ, counter.windows key =
        some (k * (windowSeconds key : ℕ), Lib.inBucket (bucket windowSeconds) (key, k) hits) ∧
      (∃ h ∈ hits, bucket windowSeconds h = (key, k)) ∧
      ∀ h ∈ hits, h.1 = key → (bucket windowSeconds h).2 ≤ k

theorem tracks_nil : InMemoryWindowCounter.Tracks windowSeconds {} [] :=
  fun _ => Or.inl ⟨rfl, by simp⟩

section Hit

variable {counter : InMemoryWindowCounter} {hits : List (String × ℚ≥0)} {time : ℚ≥0}

/-- What a window counts when it is hit, and that its start is not later than the clock. -/
theorem InMemoryWindowCounter.Tracks.current (h : counter.Tracks windowSeconds hits)
    (htime : ∀ hit ∈ hits, hit.2 ≤ time) (key : String) :
    let start := wholeSeconds time / windowSeconds key * windowSeconds key
    let q := (counter.windows key).getD (start, 0)
    (if q.1 ≠ start then (start, 0) else q) =
      (start, Lib.inBucket (bucket windowSeconds) (bucket windowSeconds (key, time)) hits) := by
  intro start q
  have hnone : (∀ hit ∈ hits, bucket windowSeconds hit ≠ bucket windowSeconds (key, time)) →
      Lib.inBucket (bucket windowSeconds) (bucket windowSeconds (key, time)) hits = 0 := fun h =>
    List.countP_eq_zero.mpr fun hit hhit => by simpa using h hit hhit
  rcases h key with ⟨hwindow, hkey⟩ | ⟨k, hwindow, ⟨last, hlast, hk⟩, hle⟩
  · have hq : q = (start, 0) := by
      change (counter.windows key).getD (start, 0) = _
      rw [hwindow]
      rfl
    rw [hq, if_neg (not_not.mpr rfl), hnone]
    exact fun hit hhit heq => hkey hit hhit (Prod.ext_iff.mp heq).1
  · have hq : q = (k * (windowSeconds key : ℕ), Lib.inBucket (bucket windowSeconds) (key, k) hits) := by
      change (counter.windows key).getD (start, 0) = _
      rw [hwindow]
      rfl
    rw [hq]
    by_cases hstart : k = wholeSeconds time / windowSeconds key
    · subst hstart
      rw [if_neg (not_not.mpr rfl)]
      rfl
    · have hne : k * windowSeconds key ≠ start := fun heq =>
        hstart (Nat.eq_of_mul_eq_mul_right (windowSeconds key).pos heq)
      rw [if_pos hne, hnone]
      -- the last window is over, so no hit is in the new one
      intro hit hhit heq
      obtain ⟨hkey, hwin⟩ := Prod.ext_iff.mp heq
      have hnew := hle hit hhit hkey
      rw [hwin] at hnew
      have hlastkey : last.1 = key := (Prod.ext_iff.mp hk).1
      have hold : k ≤ (bucket windowSeconds (key, time)).2 := by
        have hmono := bucket_mono windowSeconds key (htime last hlast)
        rwa [← hlastkey, (Prod.ext_iff.mp hk).2, hlastkey] at hmono
      exact hstart (le_antisymm hold hnew)

/-- The seconds to the next window. -/
theorem retryAfter_eq (now : ℕ) (window : ℕ+) :
    max (((now / window * window : ℕ) + (window : ℕ) : ℤ) - now) 1 =
      ((now / window + 1) * window : ℕ) - now := by
  have hlt := Nat.lt_div_mul_add (a := now) window.pos
  rw [max_eq_left (by omega), Nat.succ_mul, Nat.cast_add]

theorem InMemoryWindowCounter.Tracks.hit_eq (h : counter.Tracks windowSeconds hits)
    (htime : ∀ hit ∈ hits, hit.2 ≤ time) (key : String) (limit : ℕ) :
    counter.hit key limit (windowSeconds key) time =
      ({ allowed := Lib.inBucket (bucket windowSeconds) (bucket windowSeconds (key, time)) hits < limit
         retryAfter := ((wholeSeconds time / windowSeconds key + 1) * windowSeconds key : ℕ) -
           wholeSeconds time },
       { windows := Function.update counter.windows key
          (some (wholeSeconds time / windowSeconds key * windowSeconds key,
            Lib.inBucket (bucket windowSeconds) (bucket windowSeconds (key, time)) hits + 1)) }) := by
  have hcurrent := h.current htime key
  unfold InMemoryWindowCounter.hit
  dsimp only at hcurrent ⊢
  rw [hcurrent]
  dsimp only
  rw [retryAfter_eq]
  rfl

theorem InMemoryWindowCounter.Tracks.hit (h : counter.Tracks windowSeconds hits)
    (htime : ∀ hit ∈ hits, hit.2 ≤ time) (key : String) (limit : ℕ) :
    (counter.hit key limit (windowSeconds key) time).2.Tracks windowSeconds ((key, time) :: hits) := by
  rw [h.hit_eq htime]
  intro key'
  dsimp only
  by_cases hkey : key' = key
  · subst hkey
    refine Or.inr ⟨wholeSeconds time / windowSeconds key', ?_, ⟨_, List.mem_cons_self, rfl⟩, ?_⟩
    · rw [Function.update_self]
      exact congrArg (fun n => some (_, n)) (Lib.inBucket_cons_self _).symm
    · rw [List.forall_mem_cons]
      refine ⟨fun _ => le_rfl, ?_⟩
      rintro ⟨_, hitTime⟩ hhit rfl
      exact bucket_mono windowSeconds _ (htime _ hhit)
  · have hother : ∀ k, Lib.inBucket (bucket windowSeconds) (key', k) ((key, time) :: hits) =
        Lib.inBucket (bucket windowSeconds) (key', k) hits := fun k =>
      Lib.inBucket_cons_of_ne fun heq => hkey (Prod.ext_iff.mp heq).1.symm
    rw [Function.update_of_ne hkey]
    rcases h key' with ⟨hwindow, hnone⟩ | ⟨k, hwindow, ⟨last, hlast, hk⟩, hle⟩
    · refine Or.inl ⟨hwindow, ?_⟩
      rw [List.forall_mem_cons]
      exact ⟨Ne.symm hkey, hnone⟩
    · refine Or.inr ⟨k, ?_, ⟨last, List.mem_cons_of_mem _ hlast, hk⟩, ?_⟩
      · rw [hother]
        exact hwindow
      · rw [List.forall_mem_cons]
        exact ⟨fun heq => absurd heq.symm hkey, hle⟩

end Hit

/-- A hit reads and writes the window of its key only. -/
theorem InMemoryWindowCounter.hit_congr {counter counter' : InMemoryWindowCounter} {key : String}
    (h : counter.windows key = counter'.windows key) (limit : ℕ) (window : ℕ+) (time : ℚ≥0) :
    (counter.hit key limit window time).1 = (counter'.hit key limit window time).1 ∧
      (counter.hit key limit window time).2.windows key =
        (counter'.hit key limit window time).2.windows key := by
  unfold InMemoryWindowCounter.hit
  dsimp only
  rw [h, Function.update_self, Function.update_self]
  exact ⟨rfl, rfl⟩

theorem InMemoryWindowCounter.hit_of_ne {counter : InMemoryWindowCounter} {key key' : String}
    (h : key' ≠ key) (limit : ℕ) (window : ℕ+) (time : ℚ≥0) :
    (counter.hit key limit window time).2.windows key' = counter.windows key' :=
  Function.update_of_ne h _ _

/-! ### The server -/

/-- What stands behind the last separator, and what before it. -/
theorem append_separator_inj {c : Char} {l l' d d' : List Char} (hd : c ∉ d) (hd' : c ∉ d')
    (h : l ++ c :: d = l' ++ c :: d') : l = l' ∧ d = d' := by
  rcases List.append_eq_append_iff.mp h with ⟨as, rfl, has⟩ | ⟨as, rfl, has⟩
  all_goals
    cases as with
    | nil => simp_all
    | cons a as =>
      obtain ⟨-, rfl⟩ := List.cons_eq_cons.mp has
      simp at hd hd'

/-- A counter of the server has one key and one window. -/
theorem redisKey_inj {key key' : String} {start start' : ℕ} :
    redisKey key start = redisKey key' start' ↔ key = key' ∧ start = start' := by
  constructor
  · intro h
    have hchars : ∀ (key : String) (start : ℕ), (redisKey key start).toList =
        "ratelimit:".toList ++ (key.toList ++ ':' :: start.repr.toList) := by
      intro key start
      simp [redisKey, toString]
    have hcolon : ∀ n : ℕ, ':' ∉ n.repr.toList := by
      intro n hn
      rw [← Nat.toString_eq_repr, Nat.toString_eq_ofList_toDigits, String.toList_ofList] at hn
      exact absurd (Nat.isDigit_of_mem_toDigits (by decide) (by decide) hn) (by decide)
    have hsplit := congrArg String.toList h
    rw [hchars, hchars, List.append_cancel_left_eq] at hsplit
    obtain ⟨hkey, hstart⟩ := append_separator_inj (hcolon start) (hcolon start') hsplit
    exact ⟨String.toList_injective hkey, Nat.repr_injective (String.toList_injective hstart)⟩
  · rintro ⟨rfl, rfl⟩
    rfl

/-- The window that a check was decided in. -/
def Decision.bucket (windowSeconds : String → ℕ+) (d : Decision) : String × ℕ :=
  RateLimiting.bucket windowSeconds (d.key, d.time)

/-- How many checks of a window the server let pass. -/
def granted (windowSeconds : String → ℕ+) (b : String × ℕ) (ds : List Decision) : ℕ :=
  ds.countP fun d => d.byRedis && d.answer.allowed && decide (d.bucket windowSeconds = b)

theorem granted_cons_le {b : String × ℕ} (d : Decision) (ds : List Decision) :
    granted windowSeconds b (d :: ds) ≤ granted windowSeconds b ds + 1 := by
  rw [granted, List.countP_cons]
  split
  · exact le_rfl
  · exact Nat.le_succ _

theorem granted_cons_of_ne {b : String × ℕ} {d : Decision} {ds : List Decision}
    (h : d.bucket windowSeconds ≠ b) :
    granted windowSeconds b (d :: ds) = granted windowSeconds b ds :=
  List.countP_cons_of_neg (by simp [h])

/-- No more than the limit passed by the server in any window, and the server still counts them. -/
def Redis.Tracks (limit : String → ℕ) (windowSeconds : String → ℕ+) (redis : Redis)
    (ds : List Decision) : Prop :=
  ∀ key k, granted windowSeconds (key, k) ds ≤ limit key ∧
    (granted windowSeconds (key, k) ds = 0 ∨ ∃ count expiry,
      redis.counters (redisKey key (k * windowSeconds key)) = some (count, expiry) ∧
      granted windowSeconds (key, k) ds ≤ count ∧ ((k + 1) * windowSeconds key : ℕ) ≤ expiry)

section Server

variable {redis : Redis} {ds ds' : List Decision}

/-- A hit counts more than passed before. -/
theorem Redis.Tracks.lt_hit (h : redis.Tracks limit windowSeconds ds)
    (key : String) (time : ℚ≥0) :
    granted windowSeconds (bucket windowSeconds (key, time)) ds <
      (redis.hit (redisKey key (wholeSeconds time / windowSeconds key * windowSeconds key))
        (windowSeconds key) time).1 := by
  unfold Redis.hit
  dsimp only
  obtain ⟨-, h⟩ := h key (wholeSeconds time / windowSeconds key)
  change granted windowSeconds (key, wholeSeconds time / windowSeconds key) ds < _
  rcases h with h | ⟨count, expiry, hcounter, hle, hexpiry⟩
  · rw [h]
    split
    · split
      · exact Nat.succ_pos _
      · exact Nat.one_pos
    · exact Nat.one_pos
  · rw [hcounter]
    dsimp only
    have htime : time < expiry := by
      refine lt_of_lt_of_le ?_ hexpiry
      rw [← Nat.floor_lt zero_le, Nat.succ_mul]
      exact Nat.lt_div_mul_add (windowSeconds key).pos
    rw [if_pos htime]
    omega

theorem Redis.Tracks.hit (h : redis.Tracks limit windowSeconds ds) {key : String} {time : ℚ≥0}
    (hpassed : granted windowSeconds (bucket windowSeconds (key, time)) ds' ≤ limit key)
    (hcounted : granted windowSeconds (bucket windowSeconds (key, time)) ds' ≤
      (redis.hit (redisKey key (wholeSeconds time / windowSeconds key * windowSeconds key))
        (windowSeconds key) time).1)
    (hother : ∀ b, b ≠ bucket windowSeconds (key, time) →
      granted windowSeconds b ds' = granted windowSeconds b ds) :
    (redis.hit (redisKey key (wholeSeconds time / windowSeconds key * windowSeconds key))
      (windowSeconds key) time).2.Tracks limit windowSeconds ds' := by
  intro key' k
  by_cases hb : (key', k) = bucket windowSeconds (key, time)
  · obtain ⟨rfl, rfl⟩ := Prod.mk.inj hb
    refine ⟨hpassed, Or.inr ⟨_, _, Function.update_self .., hcounted, ?_⟩⟩
    have hfloor : (wholeSeconds time : ℚ≥0) ≤ time := Nat.floor_le zero_le
    have hstart : wholeSeconds time / windowSeconds key' * windowSeconds key' ≤ wholeSeconds time :=
      Nat.div_mul_le_self _ _
    rw [Nat.succ_mul, Nat.cast_add]
    exact add_le_add_left ((Nat.cast_le.mpr hstart).trans hfloor) _
  · rw [hother _ hb]
    obtain ⟨hle, h⟩ := h key' k
    refine ⟨hle, h.imp_right ?_⟩
    rintro ⟨count, expiry, hcounter, hrest⟩
    refine ⟨count, expiry, ?_, hrest⟩
    rw [← hcounter]
    refine Function.update_of_ne (fun heq => hb ?_) _ _
    obtain ⟨rfl, hstart⟩ := redisKey_inj.mp heq
    exact Prod.ext rfl (Nat.eq_of_mul_eq_mul_right (windowSeconds key').pos hstart)

end Server

/-! ### The limiter -/

/-- The hits that the dictionary decided. -/
def fallbackHits (ds : List Decision) : List (String × ℚ≥0) :=
  (ds.filter fun d => !d.byRedis).map fun d => (d.key, d.time)

structure RateLimiter.Tracks (limit : String → ℕ) (windowSeconds : String → ℕ+)
    (limiter : RateLimiter) (ds : List Decision) : Prop where
  passed : ∀ b, granted windowSeconds b ds ≤ limit b.1
  redis : ∀ redis, limiter.redis = some redis → redis.Tracks limit windowSeconds ds
  fallback : limiter.fallback.Tracks windowSeconds (fallbackHits ds)

/-- What a decision is, after those before. -/
structure Decides (limit : String → ℕ) (windowSeconds : String → ℕ+) (ds : List Decision)
    (check : Check) (d : Decision) : Prop where
  key : d.key = check.key
  time : d.time = if d.byRedis then check.time else check.fallbackTime
  allowed : d.byRedis = false → d.answer.allowed =
    decide (Lib.inBucket (bucket windowSeconds) (d.bucket windowSeconds) (fallbackHits ds) <
      limit d.key)
  retryAfter : d.answer.retryAfter =
    (((d.bucket windowSeconds).2 + 1) * windowSeconds d.key : ℕ) - wholeSeconds d.time

section Limiter

variable {limiter : RateLimiter} {ds : List Decision} {c : Check} {checks : List Check}

theorem RateLimiter.Tracks.ofRedis {redis : Redis} {fallback : InMemoryWindowCounter}
    (h : redis.Tracks limit windowSeconds ds)
    (hfallback : fallback.Tracks windowSeconds (fallbackHits ds)) :
    RateLimiter.Tracks limit windowSeconds ⟨some redis, fallback⟩ ds := by
  refine ⟨fun b => (h b.1 b.2).1, ?_, hfallback⟩
  rintro _ ⟨⟩
  exact h

theorem RateLimiter.Tracks.fallBack (h : limiter.Tracks limit windowSeconds ds)
    (htime : ∀ d ∈ ds, d.time ≤ c.fallbackTime) :
    Decides limit windowSeconds ds c (limiter.fallBack limit windowSeconds c).1 ∧
      (limiter.fallBack limit windowSeconds c).2.Tracks limit windowSeconds
        ((limiter.fallBack limit windowSeconds c).1 :: ds) := by
  have hhits : ∀ hit ∈ fallbackHits ds, hit.2 ≤ c.fallbackTime := by
    intro hit hhit
    obtain ⟨d, hd, rfl⟩ := List.mem_map.mp hhit
    exact htime d (List.mem_of_mem_filter hd)
  have hhit := h.fallback.hit hhits c.key (limit c.key)
  unfold RateLimiter.fallBack
  refine ⟨⟨rfl, rfl, fun _ => ?_, ?_⟩, ⟨?_, ?_, hhit⟩⟩
  · rw [h.fallback.hit_eq hhits]
    rfl
  · rw [h.fallback.hit_eq hhits]
    rfl
  · exact h.passed
  · exact h.redis

theorem RateLimiter.Tracks.check (h : limiter.Tracks limit windowSeconds ds)
    (htime : ∀ d ∈ ds, d.time ≤ c.time) (hlater : c.time ≤ c.fallbackTime) :
    Decides limit windowSeconds ds c (limiter.check limit windowSeconds c).1 ∧
      (limiter.check limit windowSeconds c).2.Tracks limit windowSeconds
        ((limiter.check limit windowSeconds c).1 :: ds) := by
  have hfallback := fun d hd => (htime d hd).trans hlater
  unfold RateLimiter.check
  cases hredis : limiter.redis with
  | none => exact h.fallBack hfallback
  | some redis =>
    have hserver := h.redis redis hredis
    have hcounted := hserver.lt_hit c.key c.time
    have hkept := hserver.hit (hserver _ _).1 hcounted.le fun _ _ => rfl
    unfold checkRedis
    dsimp only
    cases c.reply with
    | answered =>
      refine ⟨⟨rfl, rfl, nofun, retryAfter_eq _ _⟩, RateLimiter.Tracks.ofRedis ?_ h.fallback⟩
      refine hserver.hit ?_ ?_ fun b hb => granted_cons_of_ne (Ne.symm hb)
      · by_cases hallowed : (redis.hit (redisKey c.key
            (wholeSeconds c.time / windowSeconds c.key * windowSeconds c.key))
            (windowSeconds c.key) c.time).1 ≤ limit c.key
        · exact (granted_cons_le _ _).trans (hcounted.trans_le hallowed)
        · rw [granted, List.countP_cons_of_neg (by simpa using fun h => absurd h hallowed)]
          exact (hserver _ _).1
      · exact (granted_cons_le _ _).trans hcounted
    | lost counted =>
      cases counted with
      | true =>
        exact RateLimiter.Tracks.fallBack (.ofRedis hkept h.fallback) hfallback
      | false =>
        exact RateLimiter.Tracks.fallBack (.ofRedis hserver h.fallback) hfallback

theorem RateLimiter.run_cons : limiter.run limit windowSeconds (c :: checks) =
    (limiter.check limit windowSeconds c).1 ::
      (limiter.check limit windowSeconds c).2.run limit windowSeconds checks := rfl

theorem Ordered.cons (h : Ordered (c :: checks)) : c.time ≤ c.fallbackTime ∧
    (∀ c' ∈ checks, c.fallbackTime ≤ c'.time) ∧ Ordered checks := by
  obtain ⟨hc, hrest, hbetween⟩ := List.pairwise_append.mp h
  refine ⟨List.rel_of_pairwise_cons hc List.mem_cons_self, fun c' hc' => ?_, hrest⟩
  exact hbetween _ (by simp) _ (List.mem_flatMap.mpr ⟨c', hc', List.mem_cons_self⟩)

/-- A run after earlier decisions: each check is decided, the dictionary admits as many hits of a
    window as its limit says, and so does the server. -/
theorem RateLimiter.Tracks.run (h : limiter.Tracks limit windowSeconds ds) (hordered : Ordered checks)
    (htime : ∀ d ∈ ds, ∀ c ∈ checks, d.time ≤ c.time) :
    List.Forall₂ (fun c d => ∃ ds, Decides limit windowSeconds ds c d) checks
        (limiter.run limit windowSeconds checks) ∧
      ((limiter.run limit windowSeconds checks).filter fun d => !d.byRedis).map
          (fun d => ((d.key, d.time), d.answer.allowed)) =
        Lib.admitFrom (bucket windowSeconds) (fun b => limit b.1) (fallbackHits ds)
          (fallbackHits (limiter.run limit windowSeconds checks)) ∧
      ∀ b, granted windowSeconds b ((limiter.run limit windowSeconds checks).reverse ++ ds) ≤
        limit b.1 := by
  induction checks generalizing limiter ds with
  | nil => exact ⟨.nil, rfl, h.passed⟩
  | cons c checks ih =>
    obtain ⟨hlater, hnext, hrest⟩ := hordered.cons
    obtain ⟨hdecides, htracks⟩ := h.check (fun d hd => htime d hd c List.mem_cons_self) hlater
    rw [RateLimiter.run_cons]
    generalize hd : (limiter.check limit windowSeconds c).1 = d at *
    generalize (limiter.check limit windowSeconds c).2 = limiter' at *
    have htime' : ∀ d' ∈ d :: ds, ∀ c' ∈ checks, d'.time ≤ c'.time := by
      rw [List.forall_mem_cons]
      refine ⟨fun c' hc' => le_trans ?_ (hnext c' hc'), fun d' hd' c' hc' =>
        htime d' hd' c' (List.mem_cons_of_mem _ hc')⟩
      rw [hdecides.time]
      split
      · exact hlater
      · exact le_rfl
    obtain ⟨hall, hadmit, hgranted⟩ := ih htracks hrest htime'
    refine ⟨.cons ⟨ds, hdecides⟩ hall, ?_, fun b => ?_⟩
    · cases hby : d.byRedis with
      | true =>
        have hhits : ∀ ds, fallbackHits (d :: ds) = fallbackHits ds := fun ds => by
          rw [fallbackHits, List.filter_cons_of_neg (by simp [hby])]
          rfl
        rw [List.filter_cons_of_neg (by simp [hby]), hhits]
        rwa [hhits] at hadmit
      | false =>
        have hhits : ∀ ds, fallbackHits (d :: ds) = (d.key, d.time) :: fallbackHits ds := fun ds => by
          rw [fallbackHits, List.filter_cons_of_pos (by simp [hby])]
          rfl
        rw [hhits] at hadmit
        rw [List.filter_cons_of_pos (by simp [hby]), hhits, List.map_cons, hadmit, Lib.admitFrom,
          hdecides.allowed hby]
        rfl
    · rw [List.reverse_cons, List.append_assoc]
      exact hgranted b

/-- A new limiter has decided nothing. -/
theorem tracks_new (redis : Option Redis) (h : ∀ r, redis = some r → r = {}) :
    RateLimiter.Tracks limit windowSeconds ⟨redis, {}⟩ [] where
  passed _ := zero_le
  redis r hr := by
    obtain rfl := h r hr
    exact fun _ _ => ⟨zero_le, Or.inl rfl⟩
  fallback := tracks_nil

/-- Without a server every check is decided by the dictionary. -/
theorem RateLimiter.run_byRedis (h : limiter.redis = none) :
    ∀ d ∈ limiter.run limit windowSeconds checks, d.byRedis = false := by
  induction checks generalizing limiter with
  | nil => simp [RateLimiter.run]
  | cons c checks ih =>
    have hcheck : limiter.check limit windowSeconds c = limiter.fallBack limit windowSeconds c := by
      rw [RateLimiter.check, h]
    rw [RateLimiter.run_cons, hcheck]
    exact List.forall_mem_cons.mpr ⟨rfl, ih h⟩

/-- The checks of a key are decided as if there were no others. -/
theorem RateLimiter.run_filter {limiter' : RateLimiter} {key : String} (h : limiter.redis = none)
    (h' : limiter'.redis = none)
    (hwindow : limiter.fallback.windows key = limiter'.fallback.windows key) :
    (limiter.run limit windowSeconds checks).filter (fun d => d.key = key) =
      limiter'.run limit windowSeconds (checks.filter fun c => c.key = key) := by
  induction checks generalizing limiter limiter' with
  | nil => rfl
  | cons c checks ih =>
    have hcheck : ∀ limiter : RateLimiter, limiter.redis = none →
        limiter.check limit windowSeconds c = limiter.fallBack limit windowSeconds c := by
      intro limiter h
      rw [RateLimiter.check, h]
    rw [RateLimiter.run_cons, hcheck _ h]
    by_cases hkey : c.key = key
    · subst hkey
      obtain ⟨hanswer, hnext⟩ := InMemoryWindowCounter.hit_congr hwindow (limit c.key)
        (windowSeconds c.key) c.fallbackTime
      have hdecision : (limiter.fallBack limit windowSeconds c).1 =
          (limiter'.fallBack limit windowSeconds c).1 :=
        congrArg (Decision.mk c.key c.fallbackTime false) hanswer
      rw [List.filter_cons_of_pos (p := fun c' : Check => c'.key = c.key) (by simp),
        RateLimiter.run_cons, hcheck _ h', ← hdecision]
      have hredis : (limiter.fallBack limit windowSeconds c).2.redis = none := h
      have hredis' : (limiter'.fallBack limit windowSeconds c).2.redis = none := h'
      have hkey : (limiter.fallBack limit windowSeconds c).1.key = c.key := rfl
      rw [List.filter_cons, if_pos (decide_eq_true hkey), ih hredis hredis' hnext]
    · rw [List.filter_cons_of_neg (p := fun c' : Check => c'.key = key) (by simpa using hkey)]
      have hne : ¬ decide ((limiter.fallBack limit windowSeconds c).1.key = key) = true := by
        rw [decide_eq_true_iff]
        exact hkey
      rw [List.filter_cons, if_neg hne]
      exact ih h h' ((InMemoryWindowCounter.hit_of_ne (Ne.symm hkey) (limit c.key) _ _).trans hwindow)

/-- Either counter lets the limit pass. -/
theorem RateLimiter.Tracks.run_le (h : limiter.Tracks limit windowSeconds []) (hordered : Ordered checks)
    (b : String × ℕ) :
    (limiter.run limit windowSeconds checks).countP (fun d =>
      d.answer.allowed && decide (d.bucket windowSeconds = b)) ≤ 2 * limit b.1 := by
  obtain ⟨-, hadmit, hgranted⟩ := h.run hordered (by simp)
  have hfallback := hadmit ▸ Lib.admitFrom_le (b := b)
  rw [List.countP_map, List.countP_filter] at hfallback
  have hserver := hgranted b
  rw [List.append_nil, granted, List.countP_reverse] at hserver
  have hempty : Lib.inBucket (bucket windowSeconds) b (fallbackHits []) = 0 := rfl
  rw [hempty, Nat.sub_zero] at hfallback
  rw [two_mul]
  refine le_trans (le_of_eq ?_) (Nat.add_le_add hserver hfallback)
  rw [List.countP_eq_countP_filter_add _ _ (·.byRedis), List.countP_filter, List.countP_filter]
  refine congrArg₂ _ (congrArg (List.countP · _) (funext fun d => ?_)) rfl
  rw [Bool.and_comm, Bool.and_assoc]

end Limiter

/-- With the dictionary alone the first checks of a window are allowed, up to the limit, and the others
    are told when the next window begins, whatever other keys are checked; with the server, however
    it fails, at most twice the limit is allowed in a window. -/
theorem limit_enforced (limit : String → ℕ) (windowSeconds : String → ℕ+) (checks : List Check)
    (hordered : Ordered checks) :
    (∀ key k i d, (((RateLimiter.run limit windowSeconds ⟨none, {}⟩ checks).filter fun d =>
        d.bucket windowSeconds = (key, k))[i]? = some d) →
      (d.answer.allowed = true ↔ i < limit key)) ∧
    List.Forall₂ (fun c d => d.key = c.key ∧ d.time = c.fallbackTime ∧
        (d.answer.allowed = false → 0 < d.answer.retryAfter ∧
          (wholeSeconds d.time + d.answer.retryAfter : ℤ) =
            (((d.bucket windowSeconds).2 + 1) * windowSeconds d.key : ℕ)))
      checks (RateLimiter.run limit windowSeconds ⟨none, {}⟩ checks) ∧
    (∀ key, (RateLimiter.run limit windowSeconds ⟨none, {}⟩ checks).filter (fun d => d.key = key) =
      RateLimiter.run limit windowSeconds ⟨none, {}⟩ (checks.filter fun c => c.key = key)) ∧
    ∀ key k, (RateLimiter.run limit windowSeconds ⟨some {}, {}⟩ checks).countP (fun d =>
      d.answer.allowed && decide (d.bucket windowSeconds = (key, k))) ≤ 2 * limit key := by
  have hnone : RateLimiter.Tracks limit windowSeconds ⟨none, {}⟩ [] := tracks_new none (by simp)
  have hserver : RateLimiter.Tracks limit windowSeconds ⟨some {}, {}⟩ [] :=
    tracks_new (some {}) (by simp)
  have hby : ∀ d ∈ RateLimiter.run limit windowSeconds ⟨none, {}⟩ checks, d.byRedis = false :=
    RateLimiter.run_byRedis rfl
  obtain ⟨hall, hadmit, -⟩ := hnone.run hordered (by simp)
  refine ⟨fun key k i d hd => ?_, ?_, fun key => RateLimiter.run_filter rfl rfl rfl,
    fun key k => hserver.run_le hordered (key, k)⟩
  · rw [List.filter_eq_self.mpr fun d hd => by simp [hby d hd]] at hadmit
    have hget : ((Lib.admitFrom (bucket windowSeconds) (fun b => limit b.1) (fallbackHits [])
        (fallbackHits (RateLimiter.run limit windowSeconds ⟨none, {}⟩ checks))).filter fun q =>
          bucket windowSeconds q.1 = (key, k))[i]? = some ((d.key, d.time), d.answer.allowed) := by
      rw [← hadmit, List.filter_map, List.getElem?_map]
      exact congrArg _ hd
    have hfirst := Lib.admitFrom_bucket hget
    rwa [show Lib.inBucket (bucket windowSeconds) (key, k) (fallbackHits []) = 0 from rfl,
      Nat.zero_add] at hfirst
  · obtain ⟨hlen, hall⟩ := List.forall₂_iff_zip.mp hall
    refine List.forall₂_iff_zip.mpr ⟨hlen, fun {c d} hcd => ?_⟩
    obtain ⟨ds, hdecides⟩ := hall hcd
    refine ⟨hdecides.key, ?_, fun _ => ?_⟩
    · rw [hdecides.time, hby d (List.of_mem_zip hcd).2]
      rfl
    · have hlt : wholeSeconds d.time <
          ((d.bucket windowSeconds).2 + 1) * windowSeconds d.key := by
        rw [Nat.succ_mul]
        exact Nat.lt_div_mul_add (windowSeconds d.key).pos
      rw [hdecides.retryAfter]
      omega

/-- Checks of two keys within a minute, of which the server loses the second, after it has counted it,
    and the third. -/
def minute : List Check :=
  [⟨"login:a", 5, .answered, 5⟩, ⟨"login:a", 30, .lost true, 31⟩, ⟨"login:b", 40, .lost false, 40⟩,
    ⟨"login:a", 50, .answered, 50⟩]

theorem limit_enforced_minute :
    (∀ i d, ((RateLimiter.run (fun _ => 2) (fun _ => 60) ⟨none, {}⟩ minute).filter fun d =>
        d.bucket (fun _ => 60) = ("login:a", 0))[i]? = some d → (d.answer.allowed = true ↔ i < 2)) ∧
    (RateLimiter.run (fun _ => 2) (fun _ => 60) ⟨some {}, {}⟩ minute).countP (fun d =>
      d.answer.allowed && decide (d.bucket (fun _ => 60) = ("login:a", 0))) ≤ 2 * 2 := by
  have hordered : Ordered minute := by
    unfold Ordered
    decide +kernel
  have henforced := limit_enforced (fun _ => 2) (fun _ => 60) minute hordered
  exact ⟨henforced.1 "login:a" 0, henforced.2.2.2 "login:a" 0⟩

end GeoRisk.RateLimiting
