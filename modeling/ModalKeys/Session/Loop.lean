import ModalKeys.Session.Event

/-! A session running by itself: events are handled in order as they arrive, an armed key expires
at its deadline, ahead of any event of that instant, and after the last event the session waits
for the deadline that is still open. -/
namespace ModalKeys

/-- A time at which the loop did something, and the machine as it left it. -/
structure Moment (σ : Type) where
  time : Nat
  machine : Machine σ

/-- An event that comes in at a time, or a mere look at the machine. -/
structure Arrival where
  time : Nat
  event : Option HostEvent
  deriving DecidableEq, Repr

namespace Loop

variable {σ : Type}

/-- Lets the armed key expire at its deadline. -/
def expire (E : Editor σ) (m : Machine σ) : Option (Moment σ) :=
  m.timer.armed.map fun a => ⟨a.deadline, (m.expire E a.generation).2⟩

/-- The expiry that happens no later than a time. -/
def expireBy (E : Editor σ) (m : Machine σ) (time : Nat) : Option (Moment σ) :=
  (expire E m).filter fun moment => moment.time ≤ time

/-- Handles what arrives, on a machine that nothing is due on. -/
def handle (E : Editor σ) (m : Machine σ) (a : Arrival) : Machine σ :=
  match a.event with
  | some event => (m.handle E a.time event).2
  | none => m

/-- The machine once everything due by a time has happened. -/
def settle (E : Editor σ) (m : Machine σ) (time : Nat) : Machine σ :=
  ((expireBy E m time).map (·.machine)).getD m

/-- Serves the deadline that comes no later than the arrival, then the arrival. -/
def step (E : Editor σ) (m : Machine σ) (a : Arrival) : Machine σ :=
  handle E (settle E m a.time) a

/-- Waits for the deadline that is still open once no more events can come. -/
def close (E : Editor σ) (m : Machine σ) : Machine σ :=
  ((expire E m).map (·.machine)).getD m

/-- The machine that the loop returns. -/
def run (E : Editor σ) (arrivals : List Arrival) (m : Machine σ) : Machine σ :=
  close E (arrivals.foldl (step E) m)

/-- The moments of one step. -/
def visit (E : Editor σ) (m : Machine σ) (a : Arrival) : List (Moment σ) :=
  (expireBy E m a.time).toList ++ [⟨a.time, step E m a⟩]

/-- Everything that the loop does from the first arrival to its return. -/
def moments (E : Editor σ) : List Arrival → Machine σ → List (Moment σ)
  | [], m => (expire E m).toList
  | a :: arrivals, m => visit E m a ++ moments E arrivals (step E m a)

end Loop
end ModalKeys
