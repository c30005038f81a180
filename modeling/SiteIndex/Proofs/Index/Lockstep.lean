import SiteIndex.Index.Attributes
import SiteIndex.Index.Keywords
import SiteIndex.Proofs.Posting.Lockstep

/-!
# Indexes in lockstep

All that the indexes read and write of a store is in their tables. So adding a page to two stores
that are abreast gives the same and leaves them abreast (`lockstep_add`, `lockstep_addWords`),
whatever else is in either store and whatever is behind it.
-/

namespace SiteIndex.Index

open Markup (Formats)
open Page (Stub)
open Posting
open Store (Abreast OrderedMap)

variable {m n : OrderedMap Bytes}

/-! ## Adding pages -/

/-- A stub is posted under values. -/
theorem lockstep_addAll (index : UInt32) (pairs : List (String × Value)) :
    Lockstep (Abreast m n) (Attributes.addAll index pairs) := by
  induction pairs with
  | nil => exact Lockstep.pure 0
  | cons p rest ih =>
      exact Lockstep.bind (lockstep_addValue p.1 p.2 index) fun _ =>
        Lockstep.bind ih fun _ => Lockstep.pure _

/-- A page is posted under its values. -/
theorem lockstep_add (stub : Stub) (page : Page) :
    Lockstep (Abreast m n) (Attributes.add stub page) := by
  refine Lockstep.bind (lockstep_stubIndex? agreeOn_of_abreast stub.shasum) fun known => ?_
  cases known with
  | some index => exact Lockstep.pure 0
  | none => exact Lockstep.bind (lockstep_ensureStub stub.shasum) fun _ => lockstep_addAll _ _

/-- A stub is posted under words. -/
theorem lockstep_addTokens (index : UInt32) (words : List String) :
    Lockstep (Abreast m n) (Keywords.addAll index words) := by
  induction words with
  | nil => exact Lockstep.pure ()
  | cons word rest ih => exact Lockstep.bind (lockstep_addToken word index) fun _ => ih

/-- A page is posted under its words. -/
theorem lockstep_addWords (formats : Formats) (stub : Stub) (page : Page) :
    Lockstep (Abreast m n) (Keywords.add formats stub page) := by
  refine Lockstep.bind (lockstep_stubIndex? agreeOn_of_abreast stub.shasum) fun known => ?_
  cases known with
  | some index => exact Lockstep.pure 0
  | none =>
      refine Lockstep.bind (lockstep_ensureStub stub.shasum) fun index => ?_
      refine Lockstep.bind (lockstep_addTokens index _) fun _ => ?_
      exact Lockstep.bind (Store.lockstep_set (Store.owned_tablePrefix ..) _) fun _ =>
        Lockstep.pure _

end SiteIndex.Index
