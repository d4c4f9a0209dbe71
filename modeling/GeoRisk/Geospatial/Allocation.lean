import GeoRisk.Geospatial.Sampling

/-! What an allocation owes: a count for every stratum, none below zero, the total between them, and
    the minimum of a class for each once the total allows it. The even shares owe it unless labels
    are repeated; the rounded shares have to be large enough to begin with, since nothing is taken
    from the largest for the others:

        total 1000, proportions 1 and 0.01 ──▶ 990 and 10 -/

namespace GeoRisk.Geospatial

variable {strata : List Stratum} {total : ℕ} {method : AllocationMethod}
  {d alloc : List (String × ℤ)} {remainder : ℤ}

/-- The allocation that was promised. -/
structure ExactAllocation (strata : List Stratum) (total : ℕ) (allocation : List (String × ℤ)) :
    Prop where
  count : ∀ s ∈ strata, ∃ n, allocation.lookup s.label = some n ∧ 0 ≤ n
  sum : (allocation.map Prod.snd).sum = total
  minimum : MIN_PER_CLASS * strata.length ≤ total →
    ∀ s ∈ strata, ∀ n, allocation.lookup s.label = some n → MIN_PER_CLASS ≤ n

/-- The least count of a stratum. -/
def leastCount (strata : List Stratum) (total : ℕ) : ℤ :=
  if MIN_PER_CLASS * strata.length ≤ total then MIN_PER_CLASS else 0

/-- The stratum whose share a label keeps. -/
def lastOf (strata : List Stratum) (label : String) : Option Stratum :=
  strata.reverse.find? (·.label = label)

def labels (strata : List Stratum) : Finset String := (strata.map (·.label)).toFinset

/-- The rounded shares of the strata, by label. -/
structure SharesOf (strata : List Stratum) (total : ℕ) (share : String → ℤ) : Prop where
  rounded : ∀ s ∈ strata,
    ∃ z, roundedShare total (PyFloat.sum (strata.map (·.proportion))) s = .ok z
  kept : ∀ label s, lastOf strata label = some s →
    roundedShare total (PyFloat.sum (strata.map (·.proportion))) s = .ok (share label)

/-- The shares but a largest one are large enough, and leave enough of the total for that. -/
def LeaveEnough (strata : List Stratum) (total : ℕ) (share : String → ℤ) : Prop :=
  ∃ largest ∈ labels strata, (∀ label ∈ labels strata, share label ≤ share largest) ∧
    (∀ label ∈ labels strata, label ≠ largest → leastCount strata total ≤ share label) ∧
    ∑ label ∈ (labels strata).erase largest, share label + leastCount strata total ≤ total

/-- When strata can be allotted to without a correction beyond that of the largest. -/
def Allottable (strata : List Stratum) (total : ℕ) (method : AllocationMethod) : Prop :=
  if strata = [] then total = 0
  else match method with
    | .equal => (strata.map (·.label)).Nodup ∨ total < strata.length
    | .proportional => ∃ share, SharesOf strata total share ∧ LeaveEnough strata total share

/-! ### Dictionaries of counts -/

/-- The best of the counts that are read is the largest of them. -/
theorem foldl_best {step : Option (String × ℤ) → String × ℤ → Option (String × ℤ)}
    {d : List (String × ℤ)} {best : Option (String × ℤ)} (hbest : d.foldl step none = best)
    (hnone : ∀ q, step none q = some q)
    (hsome : ∀ b q, step (some b) q = if b.2 < q.2 then some q else some b) :
    (best = none ∧ d = []) ∨ ∃ b, best = some b ∧ b ∈ d ∧ ∀ q ∈ d, q.2 ≤ b.2 := by
  induction d using List.reverseRecOn generalizing best with
  | nil => exact .inl ⟨hbest.symm, rfl⟩
  | append_singleton d p ih =>
    rw [List.foldl_concat] at hbest
    refine .inr ?_
    obtain ⟨hempty, rfl⟩ | ⟨b, hb, hmem, hmax⟩ := ih rfl
    · rw [hempty, hnone] at hbest
      exact ⟨p, hbest.symm, by simp, by simp⟩
    · rw [hb, hsome] at hbest
      split at hbest
      · next hlt =>
        refine ⟨p, hbest.symm, by simp, fun q hq => ?_⟩
        rcases List.mem_append.mp hq with hq | hq
        · exact (hmax q hq).trans hlt.le
        · rw [List.mem_singleton.mp hq]
      · next hle =>
        refine ⟨b, hbest.symm, List.mem_append_left _ hmem, fun q hq => ?_⟩
        rcases List.mem_append.mp hq with hq | hq
        · exact hmax q hq
        · rw [List.mem_singleton.mp hq]
          exact not_lt.mp hle

/-- The largest label has the largest count. -/
theorem largestLabel_max {l : String} (h : largestLabel d = some l) :
    ∃ v, (l, v) ∈ d ∧ ∀ q ∈ d, q.2 ≤ v := by
  obtain ⟨q, hq, rfl⟩ := Option.map_eq_some_iff.mp h
  obtain ⟨hnone, -⟩ | ⟨b, hb, hmem, hmax⟩ := foldl_best hq (fun _ => rfl) (fun _ _ => rfl)
  · cases hnone
  · cases hb
    exact ⟨q.2, hmem, hmax⟩

/-- An allocation over the labels is exact iff no count is below the least and they add up. -/
theorem exactAllocation_iff (hlab : Labelled strata alloc)
    (hkeys : ∀ s ∈ strata, s.label ∈ alloc.map Prod.fst) : ExactAllocation strata total alloc ↔
      (∀ q ∈ alloc, leastCount strata total ≤ q.2) ∧ (alloc.map Prod.snd).sum = total := by
  have hlookup : ∀ s ∈ strata, ∃ n, alloc.lookup s.label = some n ∧ (s.label, n) ∈ alloc :=
    fun s hs => exists_lookup (hkeys s hs)
  have hitem : ∀ q ∈ alloc, ∃ s ∈ strata, alloc.lookup s.label = some q.2 := by
    intro q hq
    obtain ⟨s, hs, hsl⟩ := hlab.label q hq
    obtain ⟨n, hn, hmem⟩ := hlookup s hs
    refine ⟨s, hs, hn.trans ?_⟩
    rw [← List.inj_on_of_nodup_map hlab.nodup hmem hq hsl]
  constructor
  · intro h
    refine ⟨fun q hq => ?_, h.sum⟩
    obtain ⟨s, hs, hq'⟩ := hitem q hq
    unfold leastCount
    split
    · next hmin => exact h.minimum hmin s hs q.2 hq'
    · obtain ⟨n, hn, hpos⟩ := h.count s hs
      rw [hq'] at hn
      cases hn
      exact hpos
  · rintro ⟨hleast, hsum⟩
    have hle : ∀ s ∈ strata, ∀ n, alloc.lookup s.label = some n →
        leastCount strata total ≤ n := by
      intro s hs n hn
      obtain ⟨n', hn', hmem⟩ := hlookup s hs
      rw [hn'] at hn
      cases hn
      exact hleast _ hmem
    refine ⟨fun s hs => ?_, hsum, fun hmin s hs n hn => ?_⟩
    · obtain ⟨n, hn, -⟩ := hlookup s hs
      refine ⟨n, hn, le_trans ?_ (hle s hs n hn)⟩
      unfold leastCount
      split <;> positivity
    · simpa [leastCount, hmin] using hle s hs n hn

/-- The counts once topped up to the total are large enough iff the others were, and leave enough. -/
theorem topUp_least_iff {least : ℤ} (hd : (d.map Prod.fst).Nodup) (hne : d ≠ []) :
    (∀ q ∈ topUp d (total - (d.map Prod.snd).sum), least ≤ q.2) ↔
      ∃ p ∈ d, (∀ q ∈ d, q.2 ≤ p.2) ∧ (∀ q ∈ d, q.1 ≠ p.1 → least ≤ q.2) ∧
        (d.map Prod.snd).sum - p.2 + least ≤ total := by
  obtain ⟨l, hl⟩ := exists_largestLabel hne
  obtain ⟨v, hv, hmax⟩ := largestLabel_max hl
  have hkey : ∀ q ∈ d, q.1 = l → q = (l, v) := fun q hq h =>
    List.inj_on_of_nodup_map hd hq hv h
  rw [topUp_eq hl, List.forall_mem_map]
  constructor
  · intro h
    refine ⟨(l, v), hv, hmax, fun q hq hql => ?_, ?_⟩
    · simpa [show q.1 ≠ l from hql] using h q hq
    · have := h _ hv
      rw [if_pos rfl] at this
      dsimp only at this ⊢
      omega
  · rintro ⟨p, hp, hpmax, hleast, hsum⟩ q hq
    have hpv : p.2 = v := le_antisymm (hmax p hp) (hpmax _ hv)
    split
    · next hql =>
      rw [hkey q hq hql]
      dsimp only
      omega
    · next hql =>
      by_cases hqp : q.1 = p.1
      · -- a second largest: it is as large as the one topped up, which is not this one
        obtain rfl := List.inj_on_of_nodup_map hd hq hp hqp
        rw [hpv]
        exact hleast (l, v) hv fun h => hql h.symm
      · exact hleast q hq hqp

/-! ### Even shares -/

theorem topUp_ge {least : ℤ} (hne : d ≠ []) (hleast : ∀ q ∈ d, least ≤ q.2) (hr : 0 ≤ remainder) :
    ∀ q ∈ topUp d remainder, least ≤ q.2 := by
  obtain ⟨l, hl⟩ := exists_largestLabel hne
  rw [topUp_eq hl, List.forall_mem_map]
  intro q hq
  have := hleast q hq
  split
  · dsimp only
    omega
  · exact this

theorem leastCount_le_share (hne : strata ≠ []) :
    leastCount strata total ≤ (total / strata.length : ℕ) := by
  unfold leastCount
  split
  · next h =>
    rw [Nat.cast_le]
    exact (Nat.le_div_iff_mul_le (List.length_pos_of_ne_nil hne)).mpr h
  · positivity

theorem sum_eq_sum_toNat (h : ∀ q ∈ alloc, (0 : ℤ) ≤ q.2) :
    (alloc.map Prod.snd).sum = ((alloc.map (·.2.toNat)).sum : ℕ) := by
  induction alloc with
  | nil => rfl
  | cons q alloc ih =>
    have hq := h q List.mem_cons_self
    rw [List.map_cons, List.map_cons, List.sum_cons, List.sum_cons, Nat.cast_add,
      ← ih fun q' hq' => h q' (List.mem_cons_of_mem q hq'), Int.toNat_of_nonneg hq]

theorem leastCount_nonneg (strata : List Stratum) (total : ℕ) : 0 ≤ leastCount strata total := by
  unfold leastCount
  split <;> positivity

theorem allocate_equal_iff (hne : strata ≠ []) :
    (∃ alloc, allocateStratifiedSamples strata total .equal = .ok alloc ∧
      ExactAllocation strata total alloc) ↔ Allottable strata total .equal := by
  obtain ⟨hlab, hkeys, hvalues⟩ := equalShares_spec strata total
  set counts := topUp (equalShares strata total)
    (total - (total / strata.length : ℕ) * strata.length) with hcounts
  have hrun : allocateStratifiedSamples strata total .equal = .ok counts := by
    rw [allocateStratifiedSamples, if_neg hne]
  have hshares : equalShares strata total ≠ [] := by
    intro hnil
    obtain ⟨s, hs⟩ := List.exists_mem_of_ne_nil strata hne
    simpa [hnil] using hkeys s hs
  have hleast : ∀ q ∈ counts, leastCount strata total ≤ q.2 := by
    refine topUp_ge hshares (fun q hq => ?_) ?_
    · rw [hvalues q hq]
      exact leastCount_le_share hne
    · have := Nat.div_mul_le_self total strata.length
      rw [sub_nonneg]
      exact_mod_cast this
  have hsum := sum_eq_sum_toNat fun q hq => (leastCount_nonneg strata total).trans (hleast q hq)
  have hexact : ExactAllocation strata total counts ↔ (counts.map (·.2.toNat)).sum = total := by
    rw [exactAllocation_iff (allocate_labelled hrun) fun s hs => ?_]
    · rw [hsum, Nat.cast_inj]
      exact and_iff_right hleast
    · rw [hcounts, topUp_keys]
      exact hkeys s hs
  rw [Allottable, if_neg hne]
  refine Iff.trans ⟨?_, fun h => ⟨counts, hrun, hexact.mpr h⟩⟩ (equal_counts hne hrun)
  rintro ⟨alloc, halloc, h⟩
  rw [hrun] at halloc
  cases halloc
  exact hexact.mp h

/-! ### Rounded shares -/

theorem lastOf_concat (s : Stratum) (label : String) :
    lastOf (strata ++ [s]) label = if s.label = label then some s else lastOf strata label := by
  rw [lastOf, List.reverse_append, List.reverse_singleton, List.singleton_append, List.find?_cons]
  by_cases h : s.label = label <;> simp [h, lastOf]

/-- The shares are there iff every stratum has one, and a label keeps its last. -/
theorem roundedShares_ok_iff : (∃ d, roundedShares strata total = .ok d) ↔ ∀ s ∈ strata,
    ∃ z, roundedShare total (PyFloat.sum (strata.map (·.proportion))) s = .ok z := by
  unfold roundedShares
  simp only [bind_pure_comp]
  exact Lib.exists_foldlM_map_ok (g := fun allocation (stratum : Stratum) share =>
    setItem allocation stratum.label share)

theorem roundedShares_spec (h : roundedShares strata total = .ok d) :
    (∀ s ∈ strata, s.label ∈ d.map Prod.fst) ∧ ∀ q ∈ d, ∃ s, lastOf strata q.1 = some s ∧
      roundedShare total (PyFloat.sum (strata.map (·.proportion))) s = .ok q.2 := by
  unfold roundedShares at h
  dsimp only at h
  generalize PyFloat.sum (strata.map (·.proportion)) = whole at *
  induction strata using List.reverseRecOn generalizing d with
  | nil =>
    cases h
    simp
  | append_singleton strata s ih =>
    rw [List.foldlM_append] at h
    obtain ⟨d₁, hd₁, h⟩ := Lib.bind_ok.mp h
    obtain ⟨d₂, hd₂, h⟩ := Lib.bind_ok.mp h
    cases h
    obtain ⟨share, hshare, hret⟩ := Lib.bind_ok.mp hd₂
    cases hret
    obtain ⟨hkeys, hitems⟩ := ih hd₁
    refine ⟨fun s' hs' => mem_setItem_keys.mpr ?_, fun q hq => ?_⟩
    · rcases List.mem_append.mp hs' with hs' | hs'
      · exact .inl (hkeys s' hs')
      · exact .inr (by rw [List.mem_singleton.mp hs'])
    · rw [lastOf_concat]
      by_cases hkey : s.label = q.1
      · rw [if_pos hkey]
        exact ⟨s, rfl, eq_of_mem_setItem hq hkey.symm ▸ hshare⟩
      · rw [if_neg hkey]
        rcases mem_setItem hq with hq | rfl
        · exact hitems q hq
        · exact absurd rfl hkey

/-- The shares of a dictionary over the labels, as a function of the label. -/
theorem leaveEnough_iff {share : String → ℤ} (hd : (d.map Prod.fst).Nodup)
    (hkeys : (d.map Prod.fst).toFinset = labels strata) (hshare : ∀ q ∈ d, q.2 = share q.1) :
    LeaveEnough strata total share ↔ ∃ p ∈ d, (∀ q ∈ d, q.2 ≤ p.2) ∧
      (∀ q ∈ d, q.1 ≠ p.1 → leastCount strata total ≤ q.2) ∧
      (d.map Prod.snd).sum - p.2 + leastCount strata total ≤ total := by
  have hall : ∀ {P : String → Prop}, (∀ label ∈ labels strata, P label) ↔ ∀ q ∈ d, P q.1 := by
    intro P
    rw [← hkeys]
    simp only [List.mem_toFinset, List.forall_mem_map]
  have hsum : (d.map Prod.snd).sum = ∑ label ∈ labels strata, share label := by
    rw [← hkeys, List.sum_toFinset share hd, List.map_map]
    exact congrArg List.sum (List.map_congr_left hshare)
  have hmem : ∀ p ∈ d, p.1 ∈ labels strata := hall.mp fun _ h => h
  have hpoint : ∀ p ∈ d,
      ((∀ label ∈ labels strata, share label ≤ share p.1) ∧
        (∀ label ∈ labels strata, label ≠ p.1 → leastCount strata total ≤ share label) ∧
        ∑ label ∈ (labels strata).erase p.1, share label + leastCount strata total ≤ total) ↔
      ((∀ q ∈ d, q.2 ≤ p.2) ∧ (∀ q ∈ d, q.1 ≠ p.1 → leastCount strata total ≤ q.2) ∧
        (d.map Prod.snd).sum - p.2 + leastCount strata total ≤ total) := by
    intro p hp
    rw [hall, hall, Finset.sum_erase_eq_sub (hmem p hp), ← hsum, ← hshare p hp]
    refine and_congr ?_ (and_congr ?_ Iff.rfl)
    · exact forall₂_congr fun q hq => by rw [hshare q hq]
    · exact forall₂_congr fun q hq => by rw [hshare q hq]
  constructor
  · rintro ⟨largest, hlargest, h⟩
    rw [← hkeys, List.mem_toFinset] at hlargest
    obtain ⟨p, hp, rfl⟩ := List.mem_map.mp hlargest
    exact ⟨p, hp, (hpoint p hp).mp h⟩
  · rintro ⟨p, hp, h⟩
    exact ⟨p.1, hmem p hp, (hpoint p hp).mpr h⟩

theorem roundedShares_keys (h : roundedShares strata total = .ok d) :
    (d.map Prod.fst).toFinset = labels strata := by
  ext label
  rw [List.mem_toFinset, labels, List.mem_toFinset]
  constructor
  · intro hlabel
    obtain ⟨q, hq, rfl⟩ := List.mem_map.mp hlabel
    obtain ⟨s, hs, hsl⟩ := (roundedShares_labelled h).label q hq
    exact List.mem_map.mpr ⟨s, hs, hsl⟩
  · intro hlabel
    obtain ⟨s, hs, rfl⟩ := List.mem_map.mp hlabel
    exact (roundedShares_spec h).1 s hs

/-- What the shares of the strata are, the dictionary holds. -/
theorem SharesOf.eq {share : String → ℤ} (hshare : SharesOf strata total share)
    (h : roundedShares strata total = .ok d) : ∀ q ∈ d, q.2 = share q.1 := by
  intro q hq
  obtain ⟨s, hs, hround⟩ := (roundedShares_spec h).2 q hq
  have hkept := hshare.kept q.1 s hs
  rw [hround] at hkept
  exact Except.ok.inj hkept

theorem exists_sharesOf (h : roundedShares strata total = .ok d) :
    ∃ share, SharesOf strata total share := by
  obtain ⟨hkeys, hitems⟩ := roundedShares_spec h
  refine ⟨fun label => (d.lookup label).getD 0, roundedShares_ok_iff.mp ⟨d, h⟩,
    fun label s hs => ?_⟩
  have hmem : s ∈ strata := List.mem_reverse.mp (List.mem_of_find?_eq_some hs)
  have hlabel : s.label = label := by simpa using List.find?_some hs
  obtain ⟨z, hz, hitem⟩ := exists_lookup (hlabel ▸ hkeys s hmem)
  obtain ⟨s', hs', hround⟩ := hitems _ hitem
  rw [hs] at hs'
  cases hs'
  rw [hz]
  exact hround

theorem allocate_proportional_iff (hne : strata ≠ []) :
    (∃ alloc, allocateStratifiedSamples strata total .proportional = .ok alloc ∧
      ExactAllocation strata total alloc) ↔ Allottable strata total .proportional := by
  have hexact : ∀ {d share}, roundedShares strata total = .ok d → SharesOf strata total share →
      (ExactAllocation strata total (topUp d (total - (d.map Prod.snd).sum)) ↔
        LeaveEnough strata total share) := by
    intro d share hd hshare
    have hlab := roundedShares_labelled hd
    have hkeys := (roundedShares_spec hd).1
    have hd_ne : d ≠ [] := by
      rintro rfl
      obtain ⟨s, hs⟩ := List.exists_mem_of_ne_nil strata hne
      simpa using hkeys s hs
    have hrun : allocateStratifiedSamples strata total .proportional =
        .ok (topUp d (total - (d.map Prod.snd).sum)) := by
      rw [allocateStratifiedSamples, if_neg hne]
      exact Lib.bind_ok.mpr ⟨d, hd, rfl⟩
    obtain ⟨l, hl⟩ := exists_largestLabel hd_ne
    have hsum : ((topUp d (total - (d.map Prod.snd).sum)).map Prod.snd).sum = total := by
      rw [topUp_eq hl, sum_update hlab.nodup (largestLabel_mem hl)]
      ring
    rw [exactAllocation_iff (allocate_labelled hrun) (by simpa only [topUp_keys] using hkeys),
      and_iff_left hsum, topUp_least_iff hlab.nodup hd_ne,
      leaveEnough_iff hlab.nodup (roundedShares_keys hd) (hshare.eq hd)]
  rw [Allottable, if_neg hne, allocateStratifiedSamples, if_neg hne]
  constructor
  · rintro ⟨alloc, halloc, h⟩
    obtain ⟨d, hd, hret⟩ := Lib.bind_ok.mp halloc
    cases hret
    obtain ⟨share, hshare⟩ := exists_sharesOf hd
    exact ⟨share, hshare, (hexact hd hshare).mp h⟩
  · rintro ⟨share, hshare, h⟩
    obtain ⟨d, hd⟩ := roundedShares_ok_iff.mpr hshare.rounded
    exact ⟨_, Lib.bind_ok.mpr ⟨d, hd, rfl⟩, (hexact hd hshare).mpr h⟩

/-! ### What is promised, and when it is kept -/

/-- The allocation is the one promised iff the strata can be allotted to. -/
theorem allocateStratifiedSamples_exact (strata : List Stratum) (total : ℕ)
    (method : AllocationMethod) :
    (∃ allocation, allocateStratifiedSamples strata total method = .ok allocation ∧
      ExactAllocation strata total allocation) ↔ Allottable strata total method := by
  by_cases hne : strata = []
  · subst hne
    unfold Allottable allocateStratifiedSamples
    rw [if_pos rfl, if_pos rfl]
    constructor
    · rintro ⟨allocation, h, hexact⟩
      cases h
      simpa using hexact.sum.symm
    · rintro rfl
      exact ⟨[], rfl, by simp, rfl, by simp⟩
  · cases method with
    | equal => exact allocate_equal_iff hne
    | proportional => exact allocate_proportional_iff hne

/-- A small stratum is left below the minimum of a class. -/
theorem allocateStratifiedSamples_short :
    ∃ strata : List Stratum, MIN_PER_CLASS * strata.length ≤ 1000 ∧
      ¬ ∃ allocation, allocateStratifiedSamples strata 1000 .proportional = .ok allocation ∧
        ExactAllocation strata 1000 allocation := by
  let forest : Stratum := ⟨"forest", PyFloat.ofRat 1, by decide +kernel⟩
  let wetland : Stratum := ⟨"wetland", PyFloat.ofRat (1 / 100), by decide +kernel⟩
  refine ⟨[forest, wetland], by decide, ?_⟩
  rintro ⟨allocation, hrun, hexact⟩
  have hrun' : allocateStratifiedSamples [forest, wetland] 1000 .proportional =
      .ok [("forest", 990), ("wetland", 10)] := by decide +kernel
  rw [hrun'] at hrun
  cases hrun
  have := hexact.minimum (by decide) wetland (by simp) 10 rfl
  simp [MIN_PER_CLASS] at this

end GeoRisk.Geospatial
