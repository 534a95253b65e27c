/-!
# Pairs in key order

Lists of keys with values in which the keys strictly increase, so that each key occurs once and
equal contents are equal lists.
-/

namespace ConformanceGate.Keyed

variable {κ α : Type} [LT κ] [DecidableLT κ] [DecidableEq κ]

def Increasing (pairs : List (κ × α)) : Prop := pairs.Pairwise fun a b => a.1 < b.1

def lookup (key : κ) : List (κ × α) → Option α
  | [] => none
  | (k, v) :: rest => if k = key then some v else lookup key rest

/-- Puts a pair in its place; a pair of the same key is replaced. -/
def insert (key : κ) (value : α) : List (κ × α) → List (κ × α)
  | [] => [(key, value)]
  | (k, v) :: rest =>
    if key < k then (key, value) :: (k, v) :: rest
    else if key = k then (key, value) :: rest
    else (k, v) :: insert key value rest

/-- The pairs in key order; of equal keys the last one counts. -/
def collect (pairs : List (κ × α)) : List (κ × α) :=
  pairs.foldl (fun done p => insert p.1 p.2 done) []

end ConformanceGate.Keyed
