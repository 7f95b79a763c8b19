/-
**Least-recently-used caches.**

A cache keeps the answers to the last distinct questions, up to its capacity, and counts how often
it could answer.
-/

import GrokEvents.Entries

namespace GrokEvents.Grok

/-- Answers by question, the one asked for last first. -/
structure Cache (Key Value : Type) where
  capacity : Nat
  entries : List (Key × Value) := []
  hits : Nat := 0
  misses : Nat := 0
deriving Repr

namespace Cache

variable {Key Value : Type} [DecidableEq Key]

/-- The number of answers kept. -/
def size (cache : Cache Key Value) : Nat :=
  cache.entries.length

/-- The answer to a question, if it is kept. -/
def get? (cache : Cache Key Value) (key : Key) : Option Value :=
  Entries.get? key cache.entries

/-- The cache after answering a question whose answer is kept. -/
def hit (cache : Cache Key Value) (key : Key) (value : Value) : Cache Key Value :=
  { cache with
    entries := (key, value) :: Entries.erase key cache.entries
    hits := cache.hits + 1 }

/-- The cache after a question whose answer is not kept. -/
def miss (cache : Cache Key Value) : Cache Key Value :=
  { cache with misses := cache.misses + 1 }

/-- The cache with a new answer, for which the one not asked for longest makes room. -/
def remember (cache : Cache Key Value) (key : Key) (value : Value) : Cache Key Value :=
  { cache with entries := ((key, value) :: Entries.erase key cache.entries).take cache.capacity }

end Cache

end GrokEvents.Grok
