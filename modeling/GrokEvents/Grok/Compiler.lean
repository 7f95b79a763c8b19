/-
**Compilers.**

A compiler holds a registry, the budget of passes and a cache of the patterns compiled last.
Asking it for a pattern gives the pattern and the compiler to go on with.

* `compile_of_hit`: a kept pattern is given without notices.
-/

import GrokEvents.Grok.Pattern
import GrokEvents.Grok.Cache

namespace GrokEvents.Grok

/-- Why a compiler is not built. -/
inductive CompilerError where
  | passesBelowOne (given : Int)
  | cacheBelowOne (given : Int)
  | cacheTooLarge
deriving DecidableEq, Repr

namespace CompilerError

/-- The text of a refusal. -/
def message : CompilerError → Text
  | .passesBelowOne given => "max_iterations must be >= 1, got ".toList ++ Text.ofInt given
  | .cacheBelowOne given => "cache_size must be >= 1, got ".toList ++ Text.ofInt given
  | .cacheTooLarge => "cannot fit 'int' into an index-sized integer".toList

end CompilerError

/-- A compiler of patterns. -/
structure Compiler where
  registry : Registry
  /-- The most passes of an expansion. -/
  passes : Nat
  cache : Cache Text Pattern

namespace Compiler

/-- The passes of a compiler that is not told otherwise. -/
def defaultPasses : Nat := 10

/-- The capacity of a cache that is not told otherwise. -/
def defaultCacheSize : Nat := 256

/-- The greatest capacity of a cache. -/
def cacheSizeLimit : Int := Int.pow 2 63 - 1

/-- A compiler with an empty cache. -/
def fresh (registry : Registry) (passes cacheSize : Nat) : Compiler :=
  ⟨registry, passes, { capacity := cacheSize }⟩

/-- The compiler of the built-in patterns. -/
def default : Compiler :=
  fresh .builtin defaultPasses defaultCacheSize

/-- A compiler, once its numbers are known to be good. The passes are judged first. -/
def create (registry : Registry) (passes cacheSize : Int) : Except CompilerError Compiler :=
  if passes < 1 then .error (.passesBelowOne passes)
  else if cacheSize < 1 then .error (.cacheBelowOne cacheSize)
  else if cacheSizeLimit < cacheSize then .error .cacheTooLarge
  else .ok (fresh registry passes.toNat cacheSize.toNat)

/-- The pattern of a source, from the cache where it is kept. -/
def compile [Expr.Engine] (compiler : Compiler) (source : Text) :
    Logged (Except Expr.Fault Pattern × Compiler) :=
  match compiler.cache.get? source with
  | some pattern =>
    pure (.ok pattern, { compiler with cache := compiler.cache.hit source pattern })
  | none => do
    let missed := compiler.cache.miss
    match ← Pattern.compile compiler.registry compiler.passes source with
    | .ok pattern =>
      return (.ok pattern, { compiler with cache := missed.remember source pattern })
    | .error fault => return (.error fault, { compiler with cache := missed })

theorem compile_of_hit [Expr.Engine] {compiler : Compiler} {source : Text} {pattern : Pattern}
    (kept : compiler.cache.get? source = some pattern) :
    compiler.compile source =
      pure (.ok pattern, { compiler with cache := compiler.cache.hit source pattern }) := by
  simp [compile, kept]

end Compiler

end GrokEvents.Grok
