import Mathlib.Data.Nat.Cast.Defs

/-! The numerals of formulas over arbitrary fields. A numeral from two on is cast from the natural
    numbers; that it is one of these is said here once for all formulas. -/

namespace Lib

instance atLeastTwo_two : Nat.AtLeastTwo 2 := ⟨by decide⟩
instance atLeastTwo_three : Nat.AtLeastTwo 3 := ⟨by decide⟩
instance atLeastTwo_four : Nat.AtLeastTwo 4 := ⟨by decide⟩
instance atLeastTwo_five : Nat.AtLeastTwo 5 := ⟨by decide⟩
instance atLeastTwo_six : Nat.AtLeastTwo 6 := ⟨by decide⟩
instance atLeastTwo_ten : Nat.AtLeastTwo 10 := ⟨by decide⟩
instance atLeastTwo_fifteen : Nat.AtLeastTwo 15 := ⟨by decide⟩
instance atLeastTwo_twenty : Nat.AtLeastTwo 20 := ⟨by decide⟩
instance atLeastTwo_twentyFive : Nat.AtLeastTwo 25 := ⟨by decide⟩
instance atLeastTwo_thirtyFive : Nat.AtLeastTwo 35 := ⟨by decide⟩
instance atLeastTwo_hundred : Nat.AtLeastTwo 100 := ⟨by decide⟩
instance atLeastTwo_thousandLessOne : Nat.AtLeastTwo 999 := ⟨by decide⟩
instance atLeastTwo_thousand : Nat.AtLeastTwo 1000 := ⟨by decide⟩
instance atLeastTwo_thousandOne : Nat.AtLeastTwo 1001 := ⟨by decide⟩

end Lib
