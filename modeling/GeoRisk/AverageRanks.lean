import GeoRisk.Lib.RankLoop

/-! The two copies of `_average_ranks`: the one under the area under the ROC curve, and the one under
    Spearman's coefficient. Both are the same loop, whose ranks depend on how many values are smaller
    and how many are equal:

        rank of x  =  #smaller + (#equal + 1) / 2          Σ ranks  =  n (n + 1) / 2 -/

namespace GeoRisk

variable {α β : Type} [Field α] [LinearOrder β]

/-- `_average_ranks` of the metrics. -/
def Validation.averageRanks (values : List β) : List α := Lib.rankList values

/-- `_average_ranks` of the correlations. -/
def Prediction.Correlation.averageRanks (values : List β) : List α := Lib.rankList values

/-- Every value has the rank that its smaller and equal values give it, and the ranks add up to those
    of so many places. -/
structure TieAveraged (values : List β) (ranks : List α) : Prop where
  length : ranks.length = values.length
  rank : ∀ i : Fin values.length, ranks[i.val]? = some
    (((values.countP (· < values.get i) : ℕ) : α) +
      ((values.countP (· = values.get i) : ℕ) + 1) / 2)
  sum : ranks.sum = ((values.length : α) * (values.length + 1)) / 2

/-- Both copies average ties, and they agree. -/
theorem averageRanks_tieAveraged [CharZero α] (values : List β) :
    TieAveraged values (Validation.averageRanks values : List α) ∧
      (Prediction.Correlation.averageRanks values : List α) = Validation.averageRanks values := by
  refine ⟨⟨?_, Lib.rankList_getElem? values, Lib.rankList_sum values⟩, rfl⟩
  rw [Validation.averageRanks, Lib.rankList, List.length_ofFn]

theorem averageRanks_tieAveraged_scores :
    TieAveraged ([4, 1, 9, 4] : List ℤ)
      (Validation.averageRanks ([4, 1, 9, 4] : List ℤ) : List ℚ) ∧
      (Prediction.Correlation.averageRanks ([4, 1, 9, 4] : List ℤ) : List ℚ) =
        Validation.averageRanks ([4, 1, 9, 4] : List ℤ) :=
  averageRanks_tieAveraged [4, 1, 9, 4]

end GeoRisk
