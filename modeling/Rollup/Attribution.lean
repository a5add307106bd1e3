import Std.Data.TreeMap
import Std.Data.TreeSet
import Rollup.Log

/-!
Who a record is attributed to. The owners of changesets are looked up in a cache that keeps the
names of private owners to itself and remembers which changesets it could not resolve.
-/

namespace Rollup

/-- A user under a number and a name. -/
structure Author where
  uid : Nat
  displayName : String
deriving DecidableEq, Repr, Inhabited

/-- The user who owns a changeset, and whether the name may be shown. -/
structure Owner where
  author : Author
  isPublic : Bool
deriving DecidableEq, Repr, Inhabited

/-- Whom a changeset is attributed to, as far as that may be told. -/
inductive Attribution where
  | disclosed (author : Author)
  /-- The owner is known and wants not to be named. -/
  | withheld
  | unresolved
deriving DecidableEq, Repr

namespace Attribution

def uid? : Attribution → Option Nat
  | .disclosed author => some author.uid
  | .withheld | .unresolved => none

def displayName? : Attribution → Option String
  | .disclosed author => some author.displayName
  | .withheld | .unresolved => none

end Attribution

/-- What may be told of an owner. -/
def Owner.attribution (owner : Owner) : Attribution :=
  if owner.isPublic then .disclosed owner.author else .withheld

/-- What may be told of the owner of a changeset, if there is one. -/
def Attribution.ofOwner? : Option Owner → Attribution
  | some owner => owner.attribution
  | none => .unresolved

/-- The owners of changesets, and the changesets that were looked up in vain. -/
structure OwnerCache where
  owners : Std.TreeMap Int Owner := {}
  missed : Std.TreeSet Int := {}
  not_mem_owners : ∀ id ∈ missed, id ∉ owners := by simp

namespace OwnerCache

def empty : OwnerCache := {}

instance : Inhabited OwnerCache := ⟨empty⟩

def get? (cache : OwnerCache) (id : Int) : Option Owner := cache.owners[id]?

/-- Gives a changeset an owner, whatever was known of it. -/
def insert (cache : OwnerCache) (id : Int) (owner : Owner) : OwnerCache where
  owners := cache.owners.insert id owner
  missed := cache.missed.erase id
  not_mem_owners := by
    intro other h
    rw [Std.TreeSet.mem_erase] at h
    rw [Std.TreeMap.mem_insert]
    exact fun hmem => hmem.elim h.1 (cache.not_mem_owners other h.2)

/-- Gives changesets owners one after another, so that the last entry for a changeset counts. -/
def insertMany (cache : OwnerCache) (entries : List (Int × Owner)) : OwnerCache :=
  entries.foldl (fun cache entry => cache.insert entry.1 entry.2) cache

def ofList (entries : List (Int × Owner)) : OwnerCache := empty.insertMany entries

def contains (cache : OwnerCache) (id : Int) : Bool := cache.owners.contains id

def size (cache : OwnerCache) : Nat := cache.owners.size

def isEmpty (cache : OwnerCache) : Bool := cache.size == 0

/-- The changesets that were looked up and have no owner, in ascending order. -/
def unresolved (cache : OwnerCache) : List Int := cache.missed.toList

def attribution (cache : OwnerCache) (id : Int) : Attribution := .ofOwner? (cache.get? id)

/-- Remembers a changeset that was looked up, if it has no owner. -/
def remember (cache : OwnerCache) (id : Int) : OwnerCache :=
  if h : id ∈ cache.owners then cache
  else
    { cache with
      missed := cache.missed.insert id
      not_mem_owners := by
        intro other hmem hother
        rw [Std.TreeSet.mem_insert, Std.LawfulEqCmp.compare_eq_iff_eq] at hmem
        rcases hmem with rfl | hmem
        · exact h hother
        · exact cache.not_mem_owners other hmem hother }

/-- What is reported when a changeset is looked up: its first miss. -/
def reports (cache : OwnerCache) (id : Int) : List Report :=
  if cache.contains id || cache.missed.contains id then [] else [.unresolvedChangeset id]

@[simp] theorem get?_empty (id : Int) : empty.get? id = none := by simp [empty, get?]

theorem get?_insert (cache : OwnerCache) (id other : Int) (owner : Owner) :
    (cache.insert id owner).get? other = if id = other then some owner else cache.get? other := by
  simp [get?, insert, Std.TreeMap.getElem?_insert]

@[simp] theorem get?_remember (cache : OwnerCache) (id : Int) :
    (cache.remember id).get? = cache.get? := by
  funext other
  unfold remember
  split <;> rfl

end OwnerCache

end Rollup
