import Flowgraph.Fault
import Flowgraph.Json.Decode
import Flowgraph.Text.LowerCase

/-!
# Trying again

A request that failed for a passing cause is made again after a wait that doubles from attempt to
attempt, up to a limit, until the allowed number of retries is used up.  `Attempts` is what such a
loop leaves behind: the last outcome, and the calls and waits one after the other.
-/

namespace Flowgraph

/-- **How often to try again, and how long to wait.**  Waits are in milliseconds. -/
structure RetryPolicy where
  maxRetries : Nat
  initialWait : Nat
  maxWait : Nat
  deriving DecidableEq, Repr

namespace RetryPolicy

/-- The policy when nothing else is said. -/
def standard : RetryPolicy := ⟨3, 1000, 30000⟩

/-- The policy that never tries again. -/
def never : RetryPolicy := { standard with maxRetries := 0 }

/-- The members of a policy in data. -/
def fields : List Field :=
  [.withDefault "max_retries" (Decoder.natural (Nat.pow 2 32) "u32") standard.maxRetries,
    .withDefault "initial_backoff_ms" (Decoder.natural (Nat.pow 2 64) "u64") standard.initialWait,
    .withDefault "max_backoff_ms" (Decoder.natural (Nat.pow 2 64) "u64") standard.maxWait]

/-- Reads a policy. -/
def decoder : Decoder RetryPolicy := fun t =>
  (Decoder.record "RetryConfig" fields t).map fun (maxRetries, initialWait, maxWait, ()) =>
    ⟨maxRetries, initialWait, maxWait⟩

/-- The data of a policy. -/
def toJson (p : RetryPolicy) : Json :=
  Json.ofMembers [
    ("max_retries", .ofNat p.maxRetries),
    ("initial_backoff_ms", .ofNat p.initialWait),
    ("max_backoff_ms", .ofNat p.maxWait)]

/-! ### The wait between two attempts -/

/-- The greatest number of 64 bits. -/
def wordMax : Nat := Nat.pow 2 64 - 1

/-- Two to the power of the attempt, or the greatest number of 64 bits where it does not fit. -/
def factor (attempt : Nat) : Nat := if attempt < 64 then Nat.pow 2 attempt else wordMax

/-- **The wait after an attempt**, before jitter: doubled each time, saturating, and never above
the greatest wait. -/
def wait (p : RetryPolicy) (attempt : Nat) : Nat :=
  min (min (p.initialWait * factor attempt) wordMax) p.maxWait

/-- **A share of a wait**, down to whole milliseconds, and no longer than 64 bits can tell. -/
def jittered (wait : Nat) (share : Rat) : Nat := min (wait * share).floor.toNat wordMax

/-- **The wait after an attempt, with jitter**: a share of it, drawn anew each time, that is at least
four fifths and less than six fifths. -/
def backoff (p : RetryPolicy) (attempt : Nat) (share : Rat) : Nat := jittered (p.wait attempt) share

/-- Jitter makes a wait shorter by up to a fifth. -/
def leastJittered (wait : Nat) : Nat := wait * 4 / 5

/-- Jitter makes a wait longer by less than a fifth, and never longer than 64 bits can tell. -/
def mostJittered (wait : Nat) : Nat := min ((wait * 6 - 1) / 5) wordMax

end RetryPolicy

/-! ### Passing causes -/

/-- What the text of a passing failure contains. -/
def transientSigns : List String := ["429", "500", "502", "503", "timeout", "connection"]

/-- **The fault may pass**: a failed request whose text has one of the signs in it. -/
def Fault.isTransient : Fault → Bool
  | .agentRequest text => transientSigns.any fun sign => Text.occursIn sign.toList text.toList
  | _ => false

/-! ### The loop -/

/-- **What a loop of attempts does.** -/
inductive Attempts.Move where
  /-- Makes the call of this number. -/
  | call (attempt : Nat)
  /-- Waits for so many milliseconds, before jitter. -/
  | sleep (wait : Nat)
  deriving DecidableEq, Repr

namespace Attempts.Move

/-- The number of a call. -/
def attempt? : Move → Option Nat
  | call attempt => some attempt
  | sleep _ => none

/-- The length of a wait. -/
def wait? : Move → Option Nat
  | call _ => none
  | sleep wait => some wait

end Attempts.Move

/-- **What a loop of attempts leaves behind.** -/
structure Attempts (α : Type) where
  result : Except Fault α
  /-- What it has done, in order. -/
  moves : List Attempts.Move

namespace Attempts

/-- How many calls were made. -/
def calls {α : Type} (a : Attempts α) : Nat := (a.moves.filterMap Move.attempt?).length

/-- The waits between the calls, before jitter, in order. -/
def waits {α : Type} (a : Attempts α) : List Nat := a.moves.filterMap Move.wait?

/-- The attempts from a given one on, with some retries left. -/
def startingAt {α : Type} (p : RetryPolicy) (outcome : Nat → Except Fault α) (attempt : Nat) :
    (left : Nat) → Attempts α
  | 0 => ⟨outcome attempt, [.call attempt]⟩
  | left + 1 =>
    match outcome attempt with
    | .ok a => ⟨.ok a, [.call attempt]⟩
    | .error e =>
      if e.isTransient then
        let rest := startingAt p outcome (attempt + 1) left
        ⟨rest.result, .call attempt :: .sleep (p.wait attempt) :: rest.moves⟩
      else ⟨.error e, [.call attempt]⟩

/-- **Calls until it succeeds**, fails for good or may not be called again.  The outcome of each
call is given by its number. -/
def run {α : Type} (p : RetryPolicy) (outcome : Nat → Except Fault α) : Attempts α :=
  startingAt p outcome 0 p.maxRetries

end Attempts

end Flowgraph
