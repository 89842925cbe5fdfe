/-!
# Order statuses

The life of an order: on its way, live at the exchange, ended. The rank orders
the stages, and an ended order stays as it ended.
-/

namespace FuturesDesk

inductive Status where
  | unknown | pendingSubmit | preSubmitted | submitted | filled | partFilled | cancelled | failed
deriving DecidableEq, Repr

namespace Status

def isCancellable : Status → Bool
  | .pendingSubmit | .preSubmitted | .submitted | .partFilled => true
  | .unknown | .filled | .cancelled | .failed => false

def isTerminal : Status → Bool
  | .filled | .cancelled | .failed => true
  | .unknown | .pendingSubmit | .preSubmitted | .submitted | .partFilled => false

/-- How far the order has come. -/
def rank : Status → Nat
  | .unknown => 0
  | .pendingSubmit => 1
  | .preSubmitted => 2
  | .submitted => 3
  | .partFilled => 4
  | .filled | .cancelled | .failed => 5

def name : Status → String
  | .unknown => "Unknown"
  | .pendingSubmit => "PendingSubmit"
  | .preSubmitted => "PreSubmitted"
  | .submitted => "Submitted"
  | .filled => "Filled"
  | .partFilled => "PartFilled"
  | .cancelled => "Cancelled"
  | .failed => "Failed"

/-- The spellings in use at the exchange, in lower case. -/
def spellings : List (String × Status) :=
  [("pendingsubmit", .pendingSubmit), ("pending_submit", .pendingSubmit),
   ("presubmitted", .preSubmitted), ("pre_submitted", .preSubmitted),
   ("submitted", .submitted), ("filled", .filled),
   ("partfilled", .partFilled), ("part_filled", .partFilled), ("partially_filled", .partFilled),
   ("cancelled", .cancelled), ("canceled", .cancelled), ("failed", .failed)]

/-- Reads a status in any case of ASCII letters; what is not recognized is `unknown`. -/
def ofText (s : String) : Status := (spellings.lookup (String.ofList (s.toList.map Char.toLower))).getD .unknown

theorem not_isTerminal_of_isCancellable {s : Status} (h : s.isCancellable) : ¬ s.isTerminal := by
  cases s <;> simp_all [isCancellable, isTerminal]

theorem isCancellable_or_isTerminal {s : Status} (h : s ≠ .unknown) : s.isCancellable ∨ s.isTerminal := by
  cases s <;> simp_all [isCancellable, isTerminal]

theorem rank_le_five (s : Status) : s.rank ≤ 5 := by cases s <;> decide

theorem isTerminal_iff_rank {s : Status} : s.isTerminal ↔ s.rank = 5 := by
  cases s <;> simp [isTerminal, rank]

end Status

end FuturesDesk
