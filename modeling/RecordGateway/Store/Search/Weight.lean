import RecordGateway.Number.Power
/-!
# Weights

Rough sizes as SQLite estimates them: ten times the logarithm to the base two, so that 10 stands
for two, 16 for three, 20 for four, 33 for ten and 66 for a hundred. Weights of a product add up;
the weight of a sum is read off a table.
-/
namespace RecordGateway

abbrev Weight := Int

namespace Weight

/-- The weight of a count; eight steps between two powers of two are told apart. The table has ten
times the logarithm of 1 + k / 8. -/
def ofNat (n : Nat) : Weight :=
  let k := Nat.log2 n
  10 * k + ([0, 2, 3, 5, 6, 7, 8, 9].getD (8 * n / pow2 k - 8) 0 : Nat)

/-- What the weight of a sum has over the larger of two weights, by their difference d: ten times
the logarithm of 1 + 2 ^ (-d / 10), rounded. Behind the table it is one as far as 49. -/
def excess : List Nat :=
  [10, 10, 9, 9, 8, 8, 7, 7, 7, 6, 6, 6, 5, 5, 5, 4, 4, 4, 4, 3, 3, 3, 3, 3, 3, 2, 2, 2, 2, 2, 2, 2]

def sum (a b : Weight) : Weight :=
  let gap := (max a b - min a b).toNat
  max a b + (if 49 < gap then 0 else excess.getD gap 1 : Nat)

/-- The weight of the steps of a search among so many rows: their logarithm is a tenth of their
weight, and 33 stands for the tenth. -/
def search (a : Weight) : Weight := if a ≤ 10 then 0 else ofNat a.toNat - 33

end Weight
end RecordGateway
