import Stencil.Digest
import Stencil.Table
import Stencil.Template.Nesting

set_option autoImplicit false

/-!
A cache of compiled templates. Entries stand under the digests of their sources and keep the sources
themselves, so two sources with one digest cost a compilation but never give the wrong template.
-/

namespace Stencil

open Template (SourceError)

/-- A source and what it was compiled to. -/
structure CacheEntry where
  source : String
  template : Template

structure Cache where
  entries : Table String CacheEntry
  hits : Nat
  misses : Nat

namespace Cache

def empty : Cache := ⟨Table.empty, 0, 0⟩

/-- The template of exactly this source. -/
def find? (digest : String → String) (cache : Cache) (source : String) : Option Template :=
  match cache.entries.find? (digest source) with
  | some entry => if entry.source = source then some entry.template else none
  | none => none

def contains (digest : String → String) (cache : Cache) (source : String) : Bool :=
  (cache.find? digest source).isSome

/-- Compiles a source through the cache; a source that does not compile is not kept. -/
def read (digest : String → String) (cache : Cache) (source : String) :
    Except SourceError Template × Cache :=
  match cache.find? digest source with
  | some template => (.ok template, { cache with hits := cache.hits + 1 })
  | none =>
    let cache := { cache with misses := cache.misses + 1 }
    match Template.read source with
    | .ok template =>
      (.ok template,
        { cache with entries := cache.entries.put (digest source) ⟨source, template⟩ })
    | .error error => (.error error, cache)

/-- Compiles a source, through the cache if it may be used. -/
def compile (digest : String → String) (cache : Cache) (cached : Bool) (source : String) :
    Except SourceError Template × Cache :=
  if cached then cache.read digest source else (Template.read source, cache)

def size (cache : Cache) : Nat := cache.entries.size

end Cache

end Stencil
